import Mathlib.Data.List.Sort
import StoryForge.Library.Listing

/-!
# JSON texts

Values of JSON, and the compact text of a value: no blanks, a comma between two items or
members and a colon after a name. Characters of strings are escaped where they have to be, or
wherever they are not printable ASCII.

A text determines its value, also when more text follows, as long as that begins with one of
the characters that can follow a value.

## Main results

* `Json.read_escape` — an escaped character can be read back;
* `Json.write_append_inj` — a text determines its value and where the text ends;
* `Json.write_injective` — different values have different texts;
* `Json.le_of_mem_write` — a text has no control characters.
-/

/-- The text of a floating point number: it has a character that is in no integer. -/
structure FloatText where
  text : List Char
  chars : ∀ c ∈ text, c ∉ [',', ']', '\x7d', '"', '[', '\x7b'] ∧ ' ' < c
  first : ∀ c ∈ text.head?, c ∉ ['n', 't', 'f']
  real : ∃ c ∈ text, c ≠ '-' ∧ c.isDigit = false

/-- A value of JSON. -/
inductive Json
  | null
  | bool (value : Bool)
  | int (value : ℤ)
  | float (value : FloatText)
  | string (value : String)
  | array (items : List Json)
  | object (members : List (String × Json))

namespace Json

/-- A value that may be missing. -/
def optional {α : Type} (json : α → Json) : Option α → Json
  | none => .null
  | some value => json value

/-! ### Escapes -/

/-- The four digits of a code unit. -/
def hex4 (n : ℕ) : List Char :=
  [Nat.digitChar (n / 4096 % 16), Nat.digitChar (n / 256 % 16), Nat.digitChar (n / 16 % 16),
    Nat.digitChar (n % 16)]

/-- `\uXXXX`. -/
def escapeUnit (n : ℕ) : List Char := '\\' :: 'u' :: hex4 n

/-- The escape of a character outside the basic plane is a pair of surrogates. -/
def escapeCode (n : ℕ) : List Char :=
  if n < 0x10000 then escapeUnit n
  else
    escapeUnit (0xd800 + (n - 0x10000) / 0x400) ++ escapeUnit (0xdc00 + (n - 0x10000) % 0x400)

/-- The escapes of one letter. -/
def shortEscape : Char → Option Char
  | '"' => some '"'
  | '\\' => some '\\'
  | '\n' => some 'n'
  | '\r' => some 'r'
  | '\t' => some 't'
  | '\x0c' => some 'f'
  | '\x08' => some 'b'
  | _ => none

/-- A character of a string; `ascii` escapes everything that is not printable ASCII. -/
def escape (ascii : Bool) (c : Char) : List Char :=
  match shortEscape c with
  | some letter => ['\\', letter]
  | none =>
      if c.toNat < 0x20 ∨ ascii ∧ 0x7f ≤ c.toNat then escapeCode c.toNat else [c]

/-! ### Texts -/

/-- The text of a string. -/
def writeString (ascii : Bool) (value : String) : List Char :=
  '"' :: value.toList.flatMap (escape ascii) ++ ['"']

mutual

/-- The text of a value. -/
def write (ascii : Bool) : Json → List Char
  | .null => ['n', 'u', 'l', 'l']
  | .bool true => ['t', 'r', 'u', 'e']
  | .bool false => ['f', 'a', 'l', 's', 'e']
  | .int value => Listing.digits value
  | .float value => value.text
  | .string value => writeString ascii value
  | .array [] => ['[', ']']
  | .array (item :: items) => '[' :: write ascii item ++ writeItems ascii items
  | .object [] => ['\x7b', '\x7d']
  | .object ((name, value) :: members) =>
      '\x7b' :: writeString ascii name ++ ':' :: write ascii value ++ writeMembers ascii members

/-- The items after the first, and the end of an array. -/
def writeItems (ascii : Bool) : List Json → List Char
  | [] => [']']
  | item :: items => ',' :: write ascii item ++ writeItems ascii items

/-- The members after the first, and the end of an object. -/
def writeMembers (ascii : Bool) : List (String × Json) → List Char
  | [] => ['\x7d']
  | (name, value) :: members =>
      ',' :: writeString ascii name ++ ':' :: write ascii value ++ writeMembers ascii members

end

/-! ### Reading a character -/

/-- The value of a hexadecimal digit. -/
def hexValue (c : Char) : ℕ :=
  if c.isDigit then c.toNat - '0'.toNat else c.toNat - 'a'.toNat + 10

/-- A code unit at the beginning of a text. -/
def readUnit : List Char → Option (ℕ × List Char)
  | '\\' :: 'u' :: a :: b :: c :: d :: rest =>
      some (hexValue a * 4096 + hexValue b * 256 + hexValue c * 16 + hexValue d, rest)
  | _ => none

/-- The character that one letter stands for. -/
def readShort : Char → Option Char
  | '"' => some '"'
  | '\\' => some '\\'
  | 'n' => some '\n'
  | 'r' => some '\r'
  | 't' => some '\t'
  | 'f' => some '\x0c'
  | 'b' => some '\x08'
  | _ => none

/-- The character a text begins with, and what follows it; none at the end of the string. -/
def read (text : List Char) : Option (Char × List Char) :=
  match readUnit text with
  | some (n, rest) =>
      if 0xd800 ≤ n ∧ n < 0xdc00 then
        (readUnit rest).map fun low =>
          (Char.ofNat (0x10000 + (n - 0xd800) * 0x400 + (low.1 - 0xdc00)), low.2)
      else some (Char.ofNat n, rest)
  | none =>
      match text with
      | '\\' :: letter :: rest => (readShort letter).map (·, rest)
      | '"' :: _ => none
      | c :: rest => some (c, rest)
      | [] => none

theorem hexValue_digitChar {n : ℕ} (h : n < 16) : hexValue (Nat.digitChar n) = n := by
  revert n
  decide

theorem readUnit_escapeUnit {n : ℕ} (h : n < 0x10000) (rest : List Char) :
    readUnit (escapeUnit n ++ rest) = some (n, rest) := by
  simp only [escapeUnit, hex4, List.cons_append, List.nil_append, readUnit, Option.some.injEq,
    Prod.mk.injEq, and_true]
  rw [hexValue_digitChar (by omega), hexValue_digitChar (by omega), hexValue_digitChar (by omega),
    hexValue_digitChar (by omega)]
  omega

theorem readUnit_eq_none {text : List Char} (h : ∀ rest, text ≠ '\\' :: 'u' :: rest) :
    readUnit text = none := by
  unfold readUnit
  split
  · exact absurd rfl (h _)
  · rfl

/-- The code of a character is no surrogate. -/
theorem toNat_lt_or_ge (c : Char) : c.toNat < 0xd800 ∨ 0xdfff < c.toNat ∧ c.toNat < 0x110000 :=
  c.valid

theorem read_escapeCode (c : Char) (rest : List Char) :
    read (escapeCode c.toNat ++ rest) = some (c, rest) := by
  have hvalid := toNat_lt_or_ge c
  unfold escapeCode
  split
  case isTrue hlt =>
      rw [read.eq_def, readUnit_escapeUnit hlt]
      dsimp only
      rw [if_neg (by omega), Char.ofNat_toNat]
  case isFalse hge =>
      rw [read.eq_def, List.append_assoc, readUnit_escapeUnit (by omega)]
      dsimp only
      rw [if_pos (by omega), readUnit_escapeUnit (by omega), Option.map_some]
      have hcode : 0x10000 + (0xd800 + (c.toNat - 0x10000) / 0x400 - 0xd800) * 0x400 +
          (0xdc00 + (c.toNat - 0x10000) % 0x400 - 0xdc00) = c.toNat := by omega
      rw [hcode, Char.ofNat_toNat]

theorem shortEscape_eq_some {c letter : Char} (h : shortEscape c = some letter) :
    readShort letter = some c ∧ letter ≠ 'u' := by
  unfold shortEscape at h
  split at h
  case h_8 => exact absurd h (by simp)
  all_goals
    obtain rfl := Option.some.inj h
    exact ⟨rfl, by decide⟩

theorem shortEscape_eq_none {c : Char} (h : shortEscape c = none) : c ≠ '"' ∧ c ≠ '\\' := by
  constructor
  all_goals
    rintro rfl
    exact absurd h (by simp [shortEscape])

/-- **An escaped character can be read back**, whatever follows. -/
theorem read_escape (ascii : Bool) (c : Char) (rest : List Char) :
    read (escape ascii c ++ rest) = some (c, rest) := by
  unfold escape
  split
  case h_1 letter hletter =>
      obtain ⟨hread, hne⟩ := shortEscape_eq_some hletter
      have hunit : readUnit (['\\', letter] ++ rest) = none := by
        refine readUnit_eq_none fun rest' heq => hne ?_
        simp only [List.cons_append, List.nil_append, List.cons.injEq] at heq
        exact heq.2.1
      rw [read.eq_def, hunit]
      simp [hread]
  case h_2 hnone =>
      split
      case isTrue => exact read_escapeCode c rest
      case isFalse =>
          obtain ⟨hquote, hslash⟩ := shortEscape_eq_none hnone
          have hunit : readUnit ([c] ++ rest) = none := by
            refine readUnit_eq_none fun rest' heq => hslash ?_
            simp only [List.cons_append, List.nil_append, List.cons.injEq] at heq
            exact heq.1
          rw [read.eq_def, hunit]
          simp only [List.cons_append, List.nil_append]
          split
          case h_1 heq => exact absurd (List.cons.inj heq).1 hslash
          case h_2 heq => exact absurd (List.cons.inj heq).1 hquote
          case h_3 heq =>
              obtain ⟨rfl, rfl⟩ := List.cons.inj heq
              rfl
          case h_4 heq => exact absurd heq (by simp)

/-- Nothing is read at the end of a string. -/
theorem read_quote (rest : List Char) : read ('"' :: rest) = none := rfl

/-! ### Control characters -/

theorem le_digitChar {n : ℕ} (h : n < 16) : 0x20 ≤ (Nat.digitChar n).toNat := by
  revert n
  decide

theorem le_of_mem_escapeUnit {n : ℕ} {c : Char} (h : c ∈ escapeUnit n) : 0x20 ≤ c.toNat := by
  simp only [escapeUnit, hex4, List.mem_cons, List.not_mem_nil, or_false] at h
  rcases h with rfl | rfl | rfl | rfl | rfl | rfl
  · decide
  · decide
  all_goals exact le_digitChar (Nat.mod_lt _ (by decide))

theorem le_of_mem_escape {ascii : Bool} {c d : Char} (h : d ∈ escape ascii c) :
    0x20 ≤ d.toNat := by
  unfold escape at h
  split at h
  case h_1 letter hletter =>
      rcases List.mem_cons.mp h with rfl | h
      · decide
      · obtain rfl := List.mem_singleton.mp h
        unfold shortEscape at hletter
        split at hletter
        case h_8 => exact absurd hletter (by simp)
        all_goals
          obtain rfl := Option.some.inj hletter
          decide
  case h_2 =>
      split at h
      case isTrue =>
          unfold escapeCode at h
          split at h
          · exact le_of_mem_escapeUnit h
          · exact (List.mem_append.mp h).elim le_of_mem_escapeUnit le_of_mem_escapeUnit
      case isFalse hplain =>
          obtain rfl := List.mem_singleton.mp h
          omega

theorem le_of_mem_writeString {ascii : Bool} {value : String} {c : Char}
    (h : c ∈ writeString ascii value) : 0x20 ≤ c.toNat := by
  simp only [writeString, List.cons_append, List.mem_cons, List.mem_append, List.mem_flatMap,
    List.not_mem_nil, or_false] at h
  rcases h with rfl | ⟨_, -, h⟩ | rfl
  · decide
  · exact le_of_mem_escape h
  · decide

theorem le_of_isDigit {c : Char} (h : c.isDigit = true) : 0x20 ≤ c.toNat := by
  simp only [Char.isDigit, Bool.and_eq_true, decide_eq_true_eq, ge_iff_le] at h
  have hle : ('0' : Char).toNat ≤ c.toNat := h.1
  exact le_trans (by decide) hle

mutual

/-- **The text of a value has no control characters**: nothing that ends a line. -/
theorem le_of_mem_write {ascii : Bool} {c : Char} :
    ∀ v : Json, c ∈ write ascii v → 0x20 ≤ c.toNat
  | .null, h => by
      simp only [write, List.mem_cons, List.not_mem_nil, or_false] at h
      rcases h with rfl | rfl | rfl | rfl <;> decide
  | .bool true, h => by
      simp only [write, List.mem_cons, List.not_mem_nil, or_false] at h
      rcases h with rfl | rfl | rfl | rfl <;> decide
  | .bool false, h => by
      simp only [write, List.mem_cons, List.not_mem_nil, or_false] at h
      rcases h with rfl | rfl | rfl | rfl | rfl <;> decide
  | .int value, h => by
      rw [write] at h
      rcases Listing.mem_digits h with rfl | hdigit
      · decide
      · exact le_of_isDigit hdigit
  | .float value, h => by
      rw [write] at h
      have hlt : (' ' : Char).toNat < c.toNat := (value.chars c h).2
      exact le_trans (by decide) hlt.le
  | .string value, h => by
      rw [write] at h
      exact le_of_mem_writeString h
  | .array [], h => by
      simp only [write, List.mem_cons, List.not_mem_nil, or_false] at h
      rcases h with rfl | rfl <;> decide
  | .array (item :: items), h => by
      simp only [write, List.cons_append, List.mem_cons, List.mem_append] at h
      rcases h with rfl | h | h
      · decide
      · exact le_of_mem_write item h
      · exact le_of_mem_writeItems items h
  | .object [], h => by
      simp only [write, List.mem_cons, List.not_mem_nil, or_false] at h
      rcases h with rfl | rfl <;> decide
  | .object ((name, value) :: members), h => by
      simp only [write, List.cons_append, List.mem_cons, List.mem_append] at h
      rcases h with rfl | (h | rfl | h) | h
      · decide
      · exact le_of_mem_writeString h
      · decide
      · exact le_of_mem_write value h
      · exact le_of_mem_writeMembers members h

theorem le_of_mem_writeItems {ascii : Bool} {c : Char} :
    ∀ items : List Json, c ∈ writeItems ascii items → 0x20 ≤ c.toNat
  | [], h => by
      obtain rfl := List.mem_singleton.mp (show c ∈ [']'] from h)
      decide
  | item :: items, h => by
      simp only [writeItems, List.cons_append, List.mem_cons, List.mem_append] at h
      rcases h with rfl | h | h
      · decide
      · exact le_of_mem_write item h
      · exact le_of_mem_writeItems items h

theorem le_of_mem_writeMembers {ascii : Bool} {c : Char} :
    ∀ members : List (String × Json), c ∈ writeMembers ascii members → 0x20 ≤ c.toNat
  | [], h => by
      obtain rfl := List.mem_singleton.mp (show c ∈ ['\x7d'] from h)
      decide
  | (name, value) :: members, h => by
      simp only [writeMembers, List.cons_append, List.mem_cons, List.mem_append] at h
      rcases h with rfl | (h | rfl | h) | h
      · decide
      · exact le_of_mem_writeString h
      · decide
      · exact le_of_mem_write value h
      · exact le_of_mem_writeMembers members h

end

/-! ### A text determines its value -/

/-- What may follow a value. -/
def Stops (rest : List Char) : Prop := ∀ c ∈ rest.head?, c ∈ [',', ']', '\x7d']

theorem Stops.nil : Stops [] := by simp [Stops]

theorem stops_writeItems (ascii : Bool) (items : List Json) (rest : List Char) :
    Stops (writeItems ascii items ++ rest) := by
  cases items <;> simp [writeItems, Stops]

theorem stops_writeMembers (ascii : Bool) (members : List (String × Json)) (rest : List Char) :
    Stops (writeMembers ascii members ++ rest) := by
  cases members <;> simp [writeMembers, Stops]

/-- The kind of a value: numbers are of one kind. -/
def kind : Json → ℕ
  | .int _ | .float _ => 0
  | .string _ => 1
  | .array _ => 2
  | .object _ => 3
  | .null => 4
  | .bool true => 5
  | .bool false => 6

/-- The kind of a value by the first character of its text. -/
def kindOf : Char → ℕ
  | '"' => 1
  | '[' => 2
  | '\x7b' => 3
  | 'n' => 4
  | 't' => 5
  | 'f' => 6
  | _ => 0

theorem kindOf_eq_zero {c : Char} (hstructure : c ∉ ['"', '[', '\x7b'])
    (hword : c ∉ ['n', 't', 'f']) : kindOf c = 0 := by
  simp only [List.mem_cons, List.not_mem_nil, or_false, not_or] at hstructure hword
  unfold kindOf
  split <;> simp_all

theorem FloatText.ne_nil (value : FloatText) : value.text ≠ [] := by
  obtain ⟨c, hc, -⟩ := value.real
  exact List.ne_nil_of_mem hc

/-- The first character tells the kind. -/
theorem exists_write_eq_cons (ascii : Bool) (v : Json) :
    ∃ c text, write ascii v = c :: text ∧ kindOf c = kind v := by
  cases v with
  | null => exact ⟨_, _, rfl, rfl⟩
  | bool value => cases value <;> exact ⟨_, _, rfl, rfl⟩
  | int value =>
      rw [write]
      obtain ⟨c, text, htext⟩ := List.exists_cons_of_ne_nil (Listing.digits_ne_nil value)
      refine ⟨c, text, htext, ?_⟩
      rcases Listing.mem_digits (htext ▸ List.mem_cons_self : c ∈ Listing.digits value) with
        rfl | hdigit
      · rfl
      · refine kindOf_eq_zero ?_ ?_
        all_goals
          intro hmem
          simp only [List.mem_cons, List.not_mem_nil, or_false] at hmem
          rcases hmem with rfl | rfl | rfl <;> exact absurd hdigit (by decide)
  | float value =>
      rw [write]
      obtain ⟨c, text, htext⟩ := List.exists_cons_of_ne_nil (FloatText.ne_nil value)
      refine ⟨c, text, htext, kindOf_eq_zero (fun hmem => ?_) (value.first c (by simp [htext]))⟩
      refine (value.chars c (htext ▸ List.mem_cons_self)).1 ?_
      simp only [List.mem_cons, List.not_mem_nil, or_false] at hmem ⊢
      tauto
  | string value => exact ⟨_, _, rfl, rfl⟩
  | array items => cases items <;> exact ⟨_, _, rfl, rfl⟩
  | object members =>
      cases members with
      | nil => exact ⟨_, _, rfl, rfl⟩
      | cons member members => exact ⟨_, _, rfl, rfl⟩

theorem kind_eq_of_append {ascii : Bool} {v w : Json} {r r' : List Char}
    (h : write ascii v ++ r = write ascii w ++ r') : kind v = kind w := by
  obtain ⟨c, text, hv, hc⟩ := exists_write_eq_cons ascii v
  obtain ⟨d, text', hw, hd⟩ := exists_write_eq_cons ascii w
  rw [hv, hw] at h
  rw [← hc, ← hd, (List.cons.inj h).1]

/-- Words that end where something else begins. -/
theorem word_append_inj {u u' r r' : List Char} (hu : ∀ c ∈ u, c ∉ [',', ']', '\x7d'])
    (hu' : ∀ c ∈ u', c ∉ [',', ']', '\x7d']) (hr : Stops r) (hr' : Stops r')
    (h : u ++ r = u' ++ r') : u = u' ∧ r = r' := by
  induction u generalizing u' with
  | nil =>
      cases u' with
      | nil => exact ⟨rfl, h⟩
      | cons d u' =>
          simp only [List.nil_append, List.cons_append] at h
          exact absurd (hr d (by simp [h])) (hu' d List.mem_cons_self)
  | cons c u ih =>
      cases u' with
      | nil =>
          simp only [List.nil_append, List.cons_append] at h
          exact absurd (hr' c (by simp [← h])) (hu c List.mem_cons_self)
      | cons d u' =>
          simp only [List.cons_append, List.cons.injEq] at h
          obtain ⟨rfl, h⟩ := h
          obtain ⟨rfl, hrest⟩ := ih (fun c hc => hu c (List.mem_cons_of_mem _ hc))
            (fun c hc => hu' c (List.mem_cons_of_mem _ hc)) h
          exact ⟨rfl, hrest⟩

/-- The text of a number is a word. -/
theorem not_mem_stops_of_number {ascii : Bool} {v : Json} (hv : kind v = 0) {c : Char}
    (h : c ∈ write ascii v) : c ∉ [',', ']', '\x7d'] := by
  cases v with
  | int value =>
      rcases Listing.mem_digits (show c ∈ Listing.digits value by rwa [write] at h) with
        rfl | hdigit
      · decide
      · intro hmem
        simp only [List.mem_cons, List.not_mem_nil, or_false] at hmem
        rcases hmem with rfl | rfl | rfl <;> exact absurd hdigit (by decide)
  | float value =>
      intro hmem
      refine (value.chars c (by rwa [write] at h)).1 ?_
      simp only [List.mem_cons, List.not_mem_nil, or_false] at hmem ⊢
      tauto
  | bool value => cases value <;> exact absurd hv (by simp [kind])
  | _ => exact absurd hv (by simp [kind])

/-- A value does not begin with the end of an array. -/
theorem write_append_ne (ascii : Bool) (v : Json) (r r' : List Char) :
    write ascii v ++ r ≠ ']' :: r' := by
  intro h
  obtain ⟨c, text, hv, hc⟩ := exists_write_eq_cons ascii v
  rw [hv] at h
  obtain rfl : c = ']' := (List.cons.inj h).1
  exact not_mem_stops_of_number hc.symm (hv ▸ List.mem_cons_self : ']' ∈ write ascii v) (by simp)

/-- An integer is no floating point number. -/
theorem digits_ne_floatText (value : ℤ) (float : FloatText) : Listing.digits value ≠ float.text := by
  intro h
  obtain ⟨c, hc, hsign, hdigit⟩ := float.real
  exact Listing.not_mem_digits hsign hdigit (h ▸ hc)

/-- Numbers have different texts. -/
theorem number_inj {ascii : Bool} {v w : Json} (hv : kind v = 0) (hw : kind w = 0)
    (h : write ascii v = write ascii w) : v = w := by
  cases v with
  | int value =>
      cases w with
      | int value' =>
          rw [write, write] at h
          rw [Listing.digits_injective h]
      | float value' =>
          rw [write, write] at h
          exact absurd h (digits_ne_floatText _ _)
      | bool value => cases value <;> exact absurd hw (by simp [kind])
      | _ => exact absurd hw (by simp [kind])
  | float value =>
      cases w with
      | int value' =>
          rw [write, write] at h
          exact absurd h.symm (digits_ne_floatText _ _)
      | float value' =>
          rw [write, write] at h
          obtain ⟨text, _, _, _⟩ := value
          obtain ⟨text', _, _, _⟩ := value'
          dsimp only at h
          subst h
          rfl
      | bool value => cases value <;> exact absurd hw (by simp [kind])
      | _ => exact absurd hw (by simp [kind])
  | bool value => cases value <;> exact absurd hv (by simp [kind])
  | _ => exact absurd hv (by simp [kind])

/-- A string ends at its closing quote. -/
theorem escapes_append_inj {ascii : Bool} {s s' r r' : List Char}
    (h : s.flatMap (escape ascii) ++ '"' :: r = s'.flatMap (escape ascii) ++ '"' :: r') :
    s = s' ∧ r = r' := by
  induction s generalizing s' with
  | nil =>
      cases s' with
      | nil => exact ⟨rfl, by simpa using h⟩
      | cons d s' =>
          have hread := congrArg read h
          rw [List.flatMap_nil, List.nil_append, read_quote, List.flatMap_cons, List.append_assoc,
            read_escape] at hread
          exact absurd hread (by simp)
  | cons c s ih =>
      cases s' with
      | nil =>
          have hread := congrArg read h
          rw [List.flatMap_nil, List.nil_append, read_quote, List.flatMap_cons, List.append_assoc,
            read_escape] at hread
          exact absurd hread (by simp)
      | cons d s' =>
          have hread := congrArg read h
          rw [List.flatMap_cons, List.flatMap_cons, List.append_assoc, List.append_assoc,
            read_escape, read_escape] at hread
          simp only [Option.some.injEq, Prod.mk.injEq] at hread
          obtain ⟨rfl, hrest⟩ := hread
          obtain ⟨rfl, hr⟩ := ih hrest
          exact ⟨rfl, hr⟩

theorem writeString_append_inj {ascii : Bool} {s s' : String} {r r' : List Char}
    (h : writeString ascii s ++ r = writeString ascii s' ++ r') : s = s' ∧ r = r' := by
  simp only [writeString, List.cons_append, List.append_assoc, List.cons.injEq, true_and,
    List.nil_append] at h
  obtain ⟨hs, hr⟩ := escapes_append_inj h
  exact ⟨String.toList_injective hs, hr⟩

mutual

/-- **A text determines its value**, and where the text ends. -/
theorem write_append_inj {ascii : Bool} : ∀ (v w : Json) (r r' : List Char), Stops r → Stops r' →
    write ascii v ++ r = write ascii w ++ r' → v = w ∧ r = r'
  | .null, w, r, r', _, _, h => by
      have hkind := kind_eq_of_append h
      cases w with
      | null => exact ⟨rfl, List.append_cancel_left h⟩
      | bool value => cases value <;> exact absurd hkind (by simp [kind])
      | _ => exact absurd hkind (by simp [kind])
  | .bool value, w, r, r', _, _, h => by
      have hkind := kind_eq_of_append h
      cases w with
      | bool value' =>
          have hvalue : value = value' := by
            cases value <;> cases value' <;> first | rfl | exact absurd hkind (by simp [kind])
          subst hvalue
          exact ⟨rfl, List.append_cancel_left h⟩
      | _ => cases value <;> exact absurd hkind (by simp [kind])
  | .int value, w, r, r', hr, hr', h => by
      have hkind : kind w = 0 := (kind_eq_of_append h).symm
      obtain ⟨htext, hrest⟩ := word_append_inj (fun c hc => not_mem_stops_of_number rfl hc)
        (fun c hc => not_mem_stops_of_number hkind hc) hr hr' h
      exact ⟨number_inj rfl hkind htext, hrest⟩
  | .float value, w, r, r', hr, hr', h => by
      have hkind : kind w = 0 := (kind_eq_of_append h).symm
      obtain ⟨htext, hrest⟩ := word_append_inj (fun c hc => not_mem_stops_of_number rfl hc)
        (fun c hc => not_mem_stops_of_number hkind hc) hr hr' h
      exact ⟨number_inj rfl hkind htext, hrest⟩
  | .string value, w, r, r', _, _, h => by
      have hkind := kind_eq_of_append h
      cases w with
      | string value' =>
          rw [write, write] at h
          obtain ⟨rfl, hrest⟩ := writeString_append_inj h
          exact ⟨rfl, hrest⟩
      | bool value => cases value <;> exact absurd hkind (by simp [kind])
      | _ => exact absurd hkind (by simp [kind])
  | .array [], w, r, r', _, _, h => by
      have hkind := kind_eq_of_append h
      cases w with
      | array items' =>
          cases items' with
          | nil => exact ⟨rfl, List.append_cancel_left h⟩
          | cons item' items' =>
              simp only [write, List.cons_append, List.append_assoc, List.cons.injEq, true_and,
                List.nil_append] at h
              exact absurd h.symm (write_append_ne ascii item' _ r)
      | bool value => cases value <;> exact absurd hkind (by simp [kind])
      | _ => exact absurd hkind (by simp [kind])
  | .array (item :: items), w, r, r', hr, hr', h => by
      have hkind := kind_eq_of_append h
      cases w with
      | array items' =>
          cases items' with
          | nil =>
              simp only [write, List.cons_append, List.append_assoc, List.cons.injEq, true_and,
                List.nil_append] at h
              exact absurd h (write_append_ne ascii item _ r')
          | cons item' items' =>
              simp only [write, List.cons_append, List.append_assoc, List.cons.injEq,
                true_and] at h
              obtain ⟨rfl, hitems⟩ := write_append_inj item item' _ _
                (stops_writeItems ascii items r) (stops_writeItems ascii items' r') h
              obtain ⟨rfl, hrest⟩ := writeItems_append_inj items items' r r' hitems
              exact ⟨rfl, hrest⟩
      | bool value => cases value <;> exact absurd hkind (by simp [kind])
      | _ => exact absurd hkind (by simp [kind])
  | .object [], w, r, r', _, _, h => by
      have hkind := kind_eq_of_append h
      cases w with
      | object members' =>
          cases members' with
          | nil => exact ⟨rfl, List.append_cancel_left h⟩
          | cons member members' =>
              simp [write, writeString] at h
      | bool value => cases value <;> exact absurd hkind (by simp [kind])
      | _ => exact absurd hkind (by simp [kind])
  | .object ((name, value) :: members), w, r, r', hr, hr', h => by
      have hkind := kind_eq_of_append h
      cases w with
      | object members' =>
          cases members' with
          | nil => simp [write, writeString] at h
          | cons member members' =>
              simp only [write, List.cons_append, List.append_assoc, List.cons.injEq,
                true_and] at h
              obtain ⟨hname, h⟩ := writeString_append_inj h
              obtain ⟨hvalue, hmembers⟩ := write_append_inj value member.2 _ _
                (stops_writeMembers ascii members r) (stops_writeMembers ascii members' r')
                (List.cons.inj h).2
              obtain ⟨rfl, hrest⟩ := writeMembers_append_inj members members' r r' hmembers
              rw [hname, hvalue]
              exact ⟨rfl, hrest⟩
      | bool value => cases value <;> exact absurd hkind (by simp [kind])
      | _ => exact absurd hkind (by simp [kind])

theorem writeItems_append_inj {ascii : Bool} : ∀ (items items' : List Json) (r r' : List Char),
    writeItems ascii items ++ r = writeItems ascii items' ++ r' → items = items' ∧ r = r'
  | [], [], _, _, h => ⟨rfl, List.append_cancel_left h⟩
  | [], item' :: items', _, _, h => by simp [writeItems] at h
  | item :: items, [], _, _, h => by simp [writeItems] at h
  | item :: items, item' :: items', r, r', h => by
      simp only [writeItems, List.cons_append, List.append_assoc, List.cons.injEq, true_and] at h
      obtain ⟨rfl, hitems⟩ := write_append_inj item item' _ _
        (stops_writeItems ascii items r) (stops_writeItems ascii items' r') h
      obtain ⟨rfl, hrest⟩ := writeItems_append_inj items items' r r' hitems
      exact ⟨rfl, hrest⟩

theorem writeMembers_append_inj {ascii : Bool} :
    ∀ (members members' : List (String × Json)) (r r' : List Char),
      writeMembers ascii members ++ r = writeMembers ascii members' ++ r' →
        members = members' ∧ r = r'
  | [], [], _, _, h => ⟨rfl, List.append_cancel_left h⟩
  | [], member' :: members', _, _, h => by simp [writeMembers] at h
  | member :: members, [], _, _, h => by simp [writeMembers] at h
  | (name, value) :: members, (name', value') :: members', r, r', h => by
      simp only [writeMembers, List.cons_append, List.append_assoc, List.cons.injEq,
        true_and] at h
      obtain ⟨hname, h⟩ := writeString_append_inj h
      obtain ⟨hvalue, hmembers⟩ := write_append_inj value value' _ _
        (stops_writeMembers ascii members r) (stops_writeMembers ascii members' r')
        (List.cons.inj h).2
      obtain ⟨rfl, hrest⟩ := writeMembers_append_inj members members' r r' hmembers
      rw [hname, hvalue]
      exact ⟨rfl, hrest⟩

end

/-- **Different values have different texts.** -/
theorem write_injective (ascii : Bool) : Function.Injective (write ascii) := by
  intro v w h
  have happend : write ascii v ++ [] = write ascii w ++ [] := by rw [h]
  exact (write_append_inj v w [] [] Stops.nil Stops.nil happend).1

end Json
