import EnvAudit.Files.Walk
import EnvAudit.Proofs.Files.Follow
import EnvAudit.Proofs.Traced

/-!
# EnvAudit.Proofs.Files.Walk

What a walk comes to at an entry:

1. `FileSystem.Stops` says why a walk cannot get past an entry, and `FileSystem.Turns` what it comes
   to, in words of where the entry leads and of what can be listed and looked up (`turns_iff`);
2. a walk goes on with what it comes to (`walkEntries_of_file`, `walkEntries_of_dir`), or it ends
   there (`walkEntries_of_blocked`).
-/

namespace EnvAudit.FileSystem

/-- Why a walk cannot get past an entry, and what it reports. -/
inductive Stops (fs : FileSystem) (s : Stand) (name : String) : Entry → Blocked → Prop
  /-- A directory or a link cannot be looked up under its path. -/
  | hidden {e : Entry} {f : Fault} :
      ¬e.isFile → s.obstruction? name = some f → Stops fs s name e ⟨s.child name, f⟩
  /-- A link leads nowhere. -/
  | lost {target : Path} {f : Fault} :
      s.obstruction? name = none → fs.resolveLink s.links s.location target = .error f →
      Stops fs s name (.link target) ⟨s.child name, f⟩
  /-- A directory cannot be listed. -/
  | unlisted {access : Access} {entries : List (String × Entry)} {f : Fault} :
      s.obstruction? name = none → access.list = some f →
      Stops fs s name (.dir access entries) ⟨s.child name, f⟩
  /-- A directory to which a link leads cannot be listed. Its path is not reported. -/
  | unlistedBehind {target : Path} {goal : Location} {access : Access}
      {entries : List (String × Entry)} {left : Nat} {f : Fault} :
      s.obstruction? name = none →
      fs.resolveLink s.links s.location target = .ok ⟨goal, .dir access entries, left⟩ →
      access.list = some f → Stops fs s name (.link target) ⟨⟨[]⟩, f⟩
  /-- A link leads to a directory that the walk is in. -/
  | loop {target : Path} {goal : Location} {access : Access} {entries : List (String × Entry)}
      {left : Nat} :
      s.obstruction? name = none →
      fs.resolveLink s.links s.location target = .ok ⟨goal, .dir access entries, left⟩ →
      access.list = none → goal ∈ s.entered →
      Stops fs s name (.link target) ⟨s.child name, .linkLoop⟩

/-- What a walk comes to at an entry. -/
inductive Turns (fs : FileSystem) (s : Stand) (name : String) (e : Entry) : Turn → Prop
  | file {goal : Location} {content : Except Fault Bytes} {program : Bool} {left : Nat} :
      fs.arrive s.links s.location name e = .ok ⟨goal, .file content program, left⟩ →
      (e.isLink → s.obstruction? name = none) → Turns fs s name e (.file (s.reading name content))
  | dir {goal : Location} {access : Access} {entries : List (String × Entry)} {left : Nat} :
      fs.arrive s.links s.location name e = .ok ⟨goal, .dir access entries, left⟩ →
      s.obstruction? name = none → access.list = none → (e.isLink → goal ∉ s.entered) →
      Turns fs s name e (.dir goal left access.search entries)
  | blocked {b : Blocked} : fs.Stops s name e b → Turns fs s name e (.blocked b)

variable {fs : FileSystem} {s : Stand} {name : String} {e : Entry}

theorem reading_of_none (h : s.obstruction? name = none) (content : Except Fault Bytes) :
    s.reading name content = content := by
  rw [Stand.reading, h]
  rfl

/-- Reading through a name that is obstructed fails. -/
theorem reading_of_some {f : Fault} (h : s.obstruction? name = some f)
    (content : Except Fault Bytes) : s.reading name content = .error f := by
  rw [Stand.reading, h]
  rfl

/-- The rules for a turn leave no choice. -/
theorem turn_of_turns {t : Turn} (h : fs.Turns s name e t) : fs.turn s name e = t := by
  cases h with
  | file harrive hobstruction =>
    cases e with
    | file => cases harrive; rfl
    | dir => cases harrive
    | link target =>
      have hnone := hobstruction rfl
      rw [turn, hnone]
      simp only [turnAlong]
      rw [arrive] at harrive
      rw [harrive, reading_of_none hnone]
  | @dir goal _ _ _ harrive hnone hlist hnew =>
    cases e with
    | file => cases harrive
    | dir =>
      cases harrive
      simp only [turn, hnone, hlist, Option.or]
    | link target =>
      rw [arrive] at harrive
      have hnew : ¬s.entered.contains goal := by simpa using hnew rfl
      simp only [turn, hnone, turnAlong, harrive, hlist, if_neg hnew]
  | blocked hstops =>
    cases hstops with
    | hidden hfile hsome =>
      cases e with
      | file => exact absurd rfl hfile
      | dir => simp only [turn, hsome, Option.or]
      | link => simp only [turn, hsome]
    | lost hnone hlink => simp only [turn, hnone, turnAlong, hlink]
    | unlisted hnone hlist => simp only [turn, hnone, hlist, Option.or]
    | unlistedBehind hnone hlink hlist => simp only [turn, hnone, turnAlong, hlink, hlist]
    | @loop _ goal _ _ _ hnone hlink hlist hin =>
      have hin : s.entered.contains goal := by simpa using hin
      simp only [turn, hnone, turnAlong, hlink, hlist, if_pos hin]

/-- A turn follows the rules. -/
theorem turns (fs : FileSystem) (s : Stand) (name : String) (e : Entry) :
    fs.Turns s name e (fs.turn s name e) := by
  have hmade : ∀ {t : Turn}, fs.Turns s name e t → fs.Turns s name e (fs.turn s name e) :=
    fun h => (turn_of_turns h).symm ▸ h
  cases e with
  | file content program => exact hmade (.file rfl (fun h => by cases h))
  | dir access entries =>
    cases hobstruction : s.obstruction? name with
    | some f => exact hmade (.blocked (.hidden (by simp [Entry.isFile]) hobstruction))
    | none =>
      cases hlist : access.list with
      | some f => exact hmade (.blocked (.unlisted hobstruction hlist))
      | none => exact hmade (.dir rfl hobstruction hlist (fun h => by cases h))
  | link target =>
    cases hobstruction : s.obstruction? name with
    | some f => exact hmade (.blocked (.hidden (by simp [Entry.isFile]) hobstruction))
    | none =>
      cases hlink : fs.resolveLink s.links s.location target with
      | error f => exact hmade (.blocked (.lost hobstruction hlink))
      | ok a =>
        obtain ⟨goal, found, left⟩ := a
        cases found with
        | link => exact absurd hlink resolveLink_ne_link
        | file content program => exact hmade (.file hlink fun _ => hobstruction)
        | dir access entries =>
          cases hlist : access.list with
          | some f => exact hmade (.blocked (.unlistedBehind hobstruction hlink hlist))
          | none =>
            by_cases hin : goal ∈ s.entered
            · exact hmade (.blocked (.loop hobstruction hlink hlist hin))
            · exact hmade (.dir hlink hobstruction hlist fun _ => hin)

/-- A walk comes to one thing at each entry. -/
theorem turns_iff {t : Turn} : fs.Turns s name e t ↔ fs.turn s name e = t :=
  ⟨turn_of_turns, fun h => h ▸ fs.turns s name e⟩

/-! ## Going on -/

variable (rest : List (String × Entry))

/-- A file is noted, and the walk goes on with the other entries. -/
theorem walkEntries_of_file {content : Except Fault Bytes}
    (h : fs.turn s name e = .file content) :
    fs.walkEntries s ((name, e) :: rest) = (do
      .note ⟨s.child name, content⟩
      fs.walkEntries s rest) := by
  rw [walkEntries]
  split <;> simp_all

/-- A directory is walked before the other entries. -/
theorem walkEntries_of_dir {location : Location} {links : Nat} {search : Option Fault}
    {entries : List (String × Entry)}
    (h : fs.turn s name e = .dir location links search entries) :
    fs.walkEntries s ((name, e) :: rest) = (do
      fs.walkEntries (s.enter name location links search) (Entry.sorted entries)
      fs.walkEntries s rest) := by
  rw [walkEntries]
  split <;> simp_all

theorem walkEntries_of_blocked {b : Blocked} (h : fs.turn s name e = .blocked b) :
    fs.walkEntries s ((name, e) :: rest) = .fail b := by
  rw [walkEntries]
  split <;> simp_all

end EnvAudit.FileSystem
