import EnvAudit.Json.Reader

/-!
# EnvAudit.Proofs.Json.Written

How JSON may be written:

1. a character of a text stands for itself, or is written as a letter behind a backslash, or by its
   code point, in one `\u` escape or, if it does not fit, in two (`WritesChar`);
2. blanks may stand around the items of a list and the parts of the members of an object
   (`WritesEach`);
3. of the members of an object that have one name, the last one counts at the place of the first.

Main definition: the texts that stand for a value (`Json.Written`).
-/

namespace EnvAudit.Json

/-! ## Texts -/

/-- How the value of a hexadecimal digit may be written. -/
def WritesDigit (c : Char) (v : Nat) : Prop :=
  v < 16 ∧ (c = Nat.digitChar v ∨ c = (Nat.digitChar v).toUpper)

/-- How a code unit may be written: in four hexadecimal digits. -/
inductive WritesUnit : List Char → Nat → Prop
  | intro {c₀ c₁ c₂ c₃ : Char} {v₀ v₁ v₂ v₃ : Nat} :
      WritesDigit c₀ v₀ → WritesDigit c₁ v₁ → WritesDigit c₂ v₂ → WritesDigit c₃ v₃ →
      WritesUnit [c₀, c₁, c₂, c₃] (((v₀ * 16 + v₁) * 16 + v₂) * 16 + v₃)

/-- The letters that may stand behind a backslash, and what they stand for. -/
def shortEscapes : List (Char × Char) :=
  [('"', '"'), ('\\', '\\'), ('/', '/'), ('b', '\x08'), ('f', '\x0c'), ('n', '\n'), ('r', '\r'),
    ('t', '\t')]

/-- How a character may be written within a text. -/
inductive WritesChar : List Char → Char → Prop
  | plain {c : Char} : ' ' ≤ c → c ≠ '"' → c ≠ '\\' → WritesChar [c] c
  | short {letter c : Char} : (letter, c) ∈ shortEscapes → WritesChar ['\\', letter] c
  | unit {digits : List Char} {c : Char} :
      WritesUnit digits c.toNat → WritesChar ('\\' :: 'u' :: digits) c
  | units {high low : List Char} {c : Char} : 0x10000 ≤ c.toNat →
      WritesUnit high (0xd800 + (c.toNat - 0x10000) / 0x400) →
      WritesUnit low (0xdc00 + (c.toNat - 0x10000) % 0x400) →
      WritesChar ('\\' :: 'u' :: high ++ '\\' :: 'u' :: low) c

/-- How characters may be written within a text. -/
inductive WritesChars : List Char → List Char → Prop
  | nil : WritesChars [] []
  | cons {w ws : List Char} {c : Char} {cs : List Char} :
      WritesChar w c → WritesChars ws cs → WritesChars (w ++ ws) (c :: cs)

/-- How a text may be written. -/
inductive WritesText : List Char → String → Prop
  | intro {w : List Char} {s : String} : WritesChars w s.toList → WritesText ('"' :: w ++ ['"']) s

/-! ## Values -/

/-- White space. -/
def Blank (b : List Char) : Prop := ∀ c ∈ b, JsonReader.isSpace c

instance (b : List Char) : Decidable (Blank b) := List.decidableBAll _ b

/-- What may stand behind a value: white space, or what ends or goes on with a list or an object. -/
def Ends (rest : List Char) : Prop :=
  ∀ c ∈ rest.head?, JsonReader.isSpace c ∨ c ∈ [',', ']', '\x7d']

/-- How values may be written one after the other, with commas between them and white space around
them. -/
inductive WritesEach {α : Type} (writes : List Char → α → Prop) : List Char → List α → Prop
  | none {b : List Char} : Blank b → WritesEach writes b []
  | last {b w e : List Char} {v : α} :
      Blank b → writes w v → Blank e → WritesEach writes (b ++ (w ++ e)) [v]
  | more {b w e ws : List Char} {v v' : α} {vs : List α} :
      Blank b → writes w v → Blank e → WritesEach writes ws (v' :: vs) →
      WritesEach writes (b ++ (w ++ (e ++ ',' :: ws))) (v :: v' :: vs)

/-- How a member of an object may be written. -/
inductive WritesMember (writes : List Char → Json → Prop) : List Char → String × Json → Prop
  | intro {k b e w : List Char} {name : String} {v : Json} :
      WritesText k name → Blank b → Blank e → writes w v →
      WritesMember writes (k ++ (b ++ ':' :: (e ++ w))) (name, v)

/-- A number as it may be written: it is read as this number wherever it stands. -/
structure WritesNumber (w : List Char) (n : JsonNumber) : Prop where
  head : ∃ c rest, w = c :: rest ∧ (c = '-' ∨ c.isDigit)
  read : ∀ rest p, Ends rest →
    ∃ p', JsonReader.number ⟨w ++ rest, p⟩ = .ok (n, ⟨rest, p'⟩)

/-- How a value may be written that is neither a list nor an object. -/
inductive WritesPlain : List Char → Json → Prop
  | null : WritesPlain "null".toList .null
  | true : WritesPlain "true".toList (.bool true)
  | false : WritesPlain "false".toList (.bool false)
  | number {w : List Char} {n : JsonNumber} : WritesNumber w n → WritesPlain w (.number n)
  | text {w : List Char} {s : String} : WritesText w s → WritesPlain w (.text s)

/-- How a value may be written whose items and members are written in given ways. -/
inductive WritesWith (writes : List Char → Json → Prop) : List Char → Json → Prop
  | plain {w : List Char} {v : Json} : WritesPlain w v → WritesWith writes w v
  | array {w : List Char} {vs : List Json} :
      WritesEach writes w vs → WritesWith writes ('[' :: w ++ [']']) (.array vs)
  | object {w : List Char} {ms : List (String × Json)} :
      WritesEach (WritesMember writes) w ms →
      WritesWith writes ('\x7b' :: w ++ ['\x7d'])
        (.object (ms.foldl (fun ms m => putMember ms m.1 m.2) []))

/-- How a value may be written within which lists and objects are nested to some depth. -/
def Writes : Nat → List Char → Json → Prop
  | 0 => WritesPlain
  | depth + 1 => WritesWith (Writes depth)

/-- A text that stands for a value. -/
inductive Written : String → Json → Prop
  | intro {text : String} {b w e : List Char} {v : Json} : Blank b →
      Writes JsonReader.maxDepth w v → Blank e → text.toList = b ++ (w ++ e) → Written text v

/-! ## What is printed -/

theorem writesUnit_control {n : Nat} (h : n < 0x20) :
    WritesUnit ['0', '0', hexDigit (n / 16), hexDigit (n % 16)] n := by
  have hunit := @WritesUnit.intro _ _ _ _ 0 0 (n / 16) (n % 16) ⟨by omega, .inl rfl⟩
    ⟨by omega, .inl rfl⟩ ⟨by omega, .inl rfl⟩ ⟨by omega, .inl rfl⟩
  have hvalue : ((0 * 16 + 0) * 16 + n / 16) * 16 + n % 16 = n := by omega
  rwa [hvalue] at hunit

/-- What is printed for a character reads back as it. -/
theorem writesChar_encodeChar (c : Char) : WritesChar (encodeChar c) c := by
  unfold encodeChar
  split
  · exact .short (by decide)
  · exact .short (by decide)
  · exact .short (by decide)
  · exact .short (by decide)
  · exact .short (by decide)
  · exact .short (by decide)
  · exact .short (by decide)
  · next hquote hslash _ _ _ _ _ =>
    split
    · next hcontrol => exact .unit (writesUnit_control hcontrol)
    · next hcontrol => exact .plain (Nat.not_lt.1 hcontrol) hquote hslash

/-- What is printed for a text reads back as it. -/
theorem writesText_encodeText (s : String) : WritesText (encodeText s.toList) s := by
  refine .intro ?_
  induction s.toList with
  | nil => exact .nil
  | cons c cs ih => exact .cons (writesChar_encodeChar c) ih

theorem writes_text {w : List Char} {s : String} (h : WritesText w s) (depth : Nat) :
    Writes depth w (.text s) := by
  cases depth with
  | zero => exact .text h
  | succ depth => exact .plain (.text h)

end EnvAudit.Json
