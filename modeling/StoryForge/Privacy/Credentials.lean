import StoryForge.Privacy.Redaction

/-!
# Header values and keys in redacted texts

The first pattern replaces the value of an authorization header behind the scheme `Bearer`, and
the second replaces keys. Each goes through the text before a credential in the same way, whatever
the credential is.

## Main results

* `RedactionService.sub_headerOf` — the value of a bearer header is replaced;
* `RedactionService.sub_other_scheme` — behind another scheme it is kept, and the scheme is
  replaced;
* `RedactionService.sub_keyText`, `RedactionService.sub_findValue_keyText` — what the first
  pattern does with a key;
* `RedactionService.sub_findKey_keyText` — keys are replaced by the second.
-/

namespace StoryForge

open Regex

namespace RedactionService

/-! ### Authorization headers -/

/-- `Authorization: ` and a scheme. -/
def headerOf (scheme : List Char) : List Char :=
  "Authorization: ".toList ++ scheme ++ [' ']

theorem headerOf_append (scheme x : List Char) :
    headerOf scheme ++ x = "Authorization: ".toList ++ (scheme ++ ' ' :: x) := by
  unfold headerOf
  rw [List.append_assoc, List.append_assoc, List.singleton_append]

/-- A scheme is `Bearer`, if case is ignored. -/
def isBearer (scheme : List Char) : Bool := readWord (letters "bearer") scheme == some []

variable {t x suf scheme credential : List Char}

theorem afterColon_stops_header : afterColon.Stops ("Authorization: ".toList ++ x) := by
  refine ⟨fun c hc => ?_, ?_, fun c hc => ?_⟩
  · obtain rfl := Option.some.inj hc
    rfl
  · exact stops_word_cons rfl (stops_word_cons rfl (stops_word_cons rfl (stops_word_cons rfl
      (stops_word_cons rfl (stops_word_cons rfl stops_word_nil)))))
  · obtain rfl := Option.some.inj hc
    rfl

/-- The header cannot be read into from before it. -/
theorem rests_header (ht : t ≠ []) :
    authorization.kept.rests (t ++ ("Authorization: ".toList ++ x)) =
      (authorization.kept.rests t).map (· ++ ("Authorization: ".toList ++ x)) := by
  have hword : (word (letters "uthorization")).Stops ("Authorization: ".toList ++ x) := by
    iterate 12 refine stops_word_cons rfl ?_
    exact stops_word_nil
  have hspaces : spaces.Stops ("Authorization: ".toList ++ x) := by
    intro c hc
    obtain rfl := Option.some.inj hc
    rfl
  have hcolon : (word [isAssignment]).Stops ("Authorization: ".toList ++ x) :=
    stops_word_cons rfl stops_word_nil
  exact rests_seq_append (rests_seq_append (rests_word_cons_append hword ht) hspaces)
    ⟨hcolon, afterColon_stops_header⟩

/-- A text does not begin with a space. -/
def Solid (x : List Char) : Prop := ∀ c ∈ x.head?, isSpace c = false

/-- Behind a colon and a blank, a value that has no scheme begins behind the blank. -/
theorem rests_afterColon (hx : Solid x) :
    afterColon.rests (' ' :: x) =
      (seq (word (letters "bearer")) (many isSpace 1)).rests x ++
        [x, ' ' :: x] := by
  have hspaces : readMany isSpace 0 (' ' :: x) = [x, ' ' :: x] := by
    rw [readMany, readMany_of_stops hx]
    rfl
  have hblank : (seq (word (letters "bearer")) (many isSpace 1)).rests (' ' :: x) = [] := rfl
  rw [afterColon, rests_seq, spaces, rests_many, hspaces, List.flatMap_cons,
    List.flatMap_singleton, rests_opt, rests_opt, hblank, List.append_assoc]
  rfl

theorem solid_of_letter {c : Char} (h : letter 'b' c = true) : isSpace c = false := by
  have hc : c = 'b' ∨ c = 'B' := by
    simpa [letter] using h
  rcases hc with rfl | rfl <;> rfl

/-- A bearer scheme is read before the value. -/
theorem rests_bearer (hscheme : isBearer scheme = true) (hx : Solid x) :
    (seq (word (letters "bearer")) (many isSpace 1)).rests (scheme ++ ' ' :: x) = [x] := by
  have hread : readWord (letters "bearer") scheme = some [] := eq_of_beq hscheme
  have hspaces : readMany isSpace 1 (' ' :: x) = [x] := by
    rw [readMany, readMany_of_stops hx]
    rfl
  rw [rests_seq, rests_word, readWord_append hread, List.nil_append, Option.toList_some,
    List.flatMap_singleton, rests_many, hspaces]

theorem solid_of_isBearer (hscheme : isBearer scheme = true) : Solid (scheme ++ x) := by
  have hread : readWord (letters "bearer") scheme = some [] := eq_of_beq hscheme
  cases scheme with
  | nil => contradiction
  | cons d scheme =>
      intro c hc
      obtain rfl := Option.some.inj hc
      refine solid_of_letter ?_
      by_contra hnot
      have hnone : readWord (letters "bearer") (d :: scheme) = none := if_neg hnot
      rw [hnone] at hread
      contradiction

/-- A header is read up to its colon in one way. -/
theorem rests_authorization (x : List Char) :
    authorization.kept.rests ("Authorization: ".toList ++ x) = afterColon.rests (' ' :: x) := by
  have hname : (seq (word (letters "authorization")) spaces).rests
      ("Authorization: ".toList ++ x) = [':' :: ' ' :: x] := by
    have hread : readWord (letters "authorization") ("Authorization: ".toList ++ x) =
        some (':' :: ' ' :: x) := @readWord_append _ _ [':', ' '] rfl x
    rw [rests_seq, rests_word, hread, Option.toList_some, List.flatMap_singleton, spaces,
      rests_many, readMany_of_stops]
    · rfl
    · intro c hc
      obtain rfl := Option.some.inj hc
      rfl
  have hcolon : (seq (word [isAssignment]) afterColon).rests (':' :: ' ' :: x) =
      afterColon.rests (' ' :: x) := by
    rw [rests_seq, rests_word]
    exact List.flatMap_singleton _ _
  rw [authorization, rests_seq, hname, List.flatMap_singleton, hcolon]

/-- A header with a bearer scheme is read up to its value first. -/
theorem rests_headerOf (hscheme : isBearer scheme = true) (hx : Solid x) :
    ∃ others, authorization.kept.rests (headerOf scheme ++ x) = x :: others := by
  refine ⟨[scheme ++ ' ' :: x, ' ' :: (scheme ++ ' ' :: x)], ?_⟩
  rw [headerOf_append, rests_authorization, rests_afterColon (solid_of_isBearer hscheme),
    rests_bearer hscheme hx, List.singleton_append]

/-- A text of characters of a class. -/
structure Fits (cls : Char → Bool) (text : List Char) : Prop where
  ne_nil : text ≠ []
  all : ∀ c ∈ text, cls c = true

variable {cls : Char → Bool} {pre : List Char}

theorem Fits.head (h : Fits cls credential) (x : List Char) :
    ∃ c, (credential ++ x).head? = some c ∧ cls c = true := by
  obtain ⟨c, rest, rfl⟩ := List.exists_cons_of_ne_nil h.ne_nil
  exact ⟨c, rfl, h.all c List.mem_cons_self⟩

theorem Fits.dropWhile (h : Fits cls credential) (x : List Char) :
    (credential ++ x).dropWhile cls = x.dropWhile cls :=
  List.dropWhile_append_of_pos h.all

theorem isSpace_of_isValueChar {c : Char} (h : isValueChar c = true) : isSpace c = false := by
  simp only [isValueChar, Bool.and_eq_true, Bool.not_eq_true'] at h
  exact h.1.1

theorem Fits.solid (h : Fits isValueChar credential) (x : List Char) : Solid (credential ++ x) := by
  intro c hc
  obtain ⟨d, hd, hvalue⟩ := h.head x
  rw [Option.mem_def, hd] at hc
  obtain rfl := Option.some.inj hc
  exact isSpace_of_isValueChar hvalue

/-- What the authorization pattern finds. -/
def findValue (text : List Char) : Option (List Char × List Char) :=
  authorization.replaceAt mask text

/-- The value of a bearer header is found. -/
theorem findValue_headerOf (hscheme : isBearer scheme = true)
    (hfits : Fits isValueChar credential) :
    findValue (headerOf scheme ++ (credential ++ suf)) =
      some (headerOf scheme ++ mask, suf.dropWhile isValueChar) := by
  obtain ⟨others, hrests⟩ := rests_headerOf hscheme (hfits.solid suf)
  have hfound : findValue (headerOf scheme ++ (credential ++ suf)) = some (_, _) :=
    replaceAt_of_head hrests (hfits.head suf)
  rw [hfound, List.length_append, Nat.add_sub_cancel, List.take_left', hfits.dropWhile]
  rfl

/-- No authorization value is left open at the end of a text. -/
def Closed (text : List Char) : Prop := ¬Opens findValue text ['x']

theorem rests_probe (t : List Char) :
    authorization.kept.rests (t ++ ['x']) = (authorization.kept.rests t).map (· ++ ['x']) :=
  rests_append (stops_of_accepts rfl) t

/-- What a substitution leaves of a text that it has gone through. -/
theorem length_dropWhile_lt_of_head {x : List Char} (h : ∃ c, x.head? = some c ∧ cls c = true) :
    (x.dropWhile cls).length < x.length := by
  obtain ⟨c, hc, hcls⟩ := h
  cases x with
  | nil => contradiction
  | cons d x =>
      obtain rfl := Option.some.inj hc
      exact length_dropWhile_lt hcls (List.cons_ne_nil _ _)

/-- A text in which no value is left open is gone through before a header. -/
theorem sub_header (hclosed : Closed pre) (x : List Char) :
    sub findValue (pre ++ ("Authorization: ".toList ++ x)) =
      (scanFrom findValue ['x'] 0 pre).1 ++ sub findValue ("Authorization: ".toList ++ x) := by
  have hhead : ∃ c, ("Authorization: ".toList ++ x).head? = some c ∧ isValueChar c = true :=
    ⟨'A', rfl, rfl⟩
  have hscan : scanFrom findValue ("Authorization: ".toList ++ x) 0 pre =
      ((scanFrom findValue ['x'] 0 pre).1, 0) :=
    scanFrom_of_alike (List.dropWhile_suffix isValueChar) (List.dropWhile_suffix isValueChar)
      (length_dropWhile_lt_of_head hhead) (by decide)
      (fun t hne _ => alike_of_many (rests_header hne) (rests_probe t) hhead ⟨'x', rfl, rfl⟩)
      hclosed
  rw [sub_append, hscan, List.drop_zero]

/-- Values of bearer headers are replaced, whatever they are. -/
theorem sub_headerOf (hclosed : Closed pre) (hscheme : isBearer scheme = true)
    (hfits : Fits isValueChar credential) :
    sub findValue (pre ++ (headerOf scheme ++ (credential ++ suf))) =
      (scanFrom findValue ['x'] 0 pre).1 ++
        .replaced (headerOf scheme ++ mask) :: sub findValue (suf.dropWhile isValueChar) := by
  have hfound : findValue (headerOf scheme ++ (credential ++ suf)) =
      some (headerOf scheme ++ mask, suf.dropWhile isValueChar) :=
    findValue_headerOf hscheme hfits
  rw [headerOf_append] at hfound ⊢
  rw [sub_header hclosed]
  refine congrArg _ (sub_cons_some hfound ((List.dropWhile_suffix _).trans ?_))
  exact (((List.suffix_append credential suf).trans (List.suffix_cons ' ' _)).trans
    (List.suffix_append scheme _)).trans (List.suffix_append "uthorization: ".toList _)

/-- Another scheme is not read before the value. -/
theorem rests_other_scheme (hscheme : isBearer scheme = false) (h : Fits isValueChar scheme) :
    (seq (word (letters "bearer")) (many isSpace 1)).rests (scheme ++ ' ' :: x) = [] := by
  rw [rests_seq, rests_word, readWord_append_of_stops (stops_of_accepts rfl)]
  cases hrest : readWord (letters "bearer") scheme with
  | none => rfl
  | some rest =>
      cases rest with
      | nil =>
          rw [isBearer, hrest] at hscheme
          contradiction
      | cons c rest =>
          have hc : isSpace c = false := isSpace_of_isValueChar
            (h.all c ((readWord_suffix hrest).subset List.mem_cons_self))
          rw [Option.map_some, Option.toList_some, List.flatMap_singleton, rests_many,
            readMany_of_stops fun d hd => Option.some.inj hd ▸ hc]
          rfl

/-- **Behind another scheme the value is kept**: the scheme is replaced in its place. -/
theorem sub_other_scheme (hclosed : Closed pre) (hscheme : isBearer scheme = false)
    (h : Fits isValueChar scheme) :
    sub findValue (pre ++ (headerOf scheme ++ x)) =
      (scanFrom findValue ['x'] 0 pre).1 ++
        .replaced ("Authorization: ".toList ++ mask) :: sub findValue (' ' :: x) := by
  have hrests : authorization.kept.rests ("Authorization: ".toList ++ (scheme ++ ' ' :: x)) =
      [scheme ++ ' ' :: x, ' ' :: (scheme ++ ' ' :: x)] := by
    rw [rests_authorization, rests_afterColon (h.solid _), rests_other_scheme hscheme h,
      List.nil_append]
  have hfound : findValue ("Authorization: ".toList ++ (scheme ++ ' ' :: x)) = some (_, _) :=
    replaceAt_of_head hrests (h.head _)
  rw [List.length_append, Nat.add_sub_cancel, List.take_left', h.dropWhile,
    List.dropWhile_cons_of_neg Bool.false_ne_true] at hfound
  · rw [headerOf_append, sub_header hclosed]
    exact congrArg _ (sub_cons_some hfound ((List.suffix_append scheme _).trans
      (List.suffix_append "uthorization: ".toList _)))
  · rfl

/-! ### Keys -/

/-- A key and what follows it. -/
def keyText (credential suf : List Char) : List Char := 's' :: 'k' :: '-' :: credential ++ suf

/-- What the key pattern finds. -/
def findKey (text : List Char) : Option (List Char × List Char) := apiKey.replaceAt mask text

/-- What the key pattern finds where a key begins. -/
def findKeyHere (text : List Char) : Option (List Char × List Char) :=
  (readWord (letters "sk-") text).bind fun rest =>
    if 12 ≤ (rest.takeWhile isKeyChar).length then some (mask, rest.dropWhile isKeyChar) else none

theorem findKey_eq (text : List Char) :
    findKey text = ((opt assigned).rests text).findSome? findKeyHere := by
  have hhere : ∀ a, ((seq (word (letters "sk-")) (many isKeyChar 12)).rests a).head?.map
      (fun rest => (mask, rest)) = findKeyHere a := by
    intro a
    rw [rests_seq, rests_word, findKeyHere]
    cases readWord (letters "sk-") a with
    | none => rfl
    | some rest =>
        rw [Option.toList_some, List.flatMap_singleton, rests_many, head?_readMany,
          Option.bind_some]
        split <;> rfl
  rw [findKey, apiKey, replaceAt_of_hidden, rests_seq, List.head?_flatMap, List.map_findSome?]
  exact congrArg (fun f => ((opt assigned).rests text).findSome? f) (funext hhere)

theorem toNat_of_isAlphanum {c : Char} (h : c.isAlphanum = true) :
    48 ≤ c.toNat ∧ c.toNat ≤ 57 ∨ 65 ≤ c.toNat ∧ c.toNat ≤ 90 ∨
      97 ≤ c.toNat ∧ c.toNat ≤ 122 := by
  rcases Bool.or_eq_true_iff.mp h with halpha | hdigit
  · rcases Bool.or_eq_true_iff.mp halpha with hupper | hlower
    · exact .inr (.inl (of_decide_eq_true hupper))
    · obtain ⟨hfirst, hlast⟩ := Bool.and_eq_true_iff.mp hlower
      exact .inr (.inr ⟨of_decide_eq_true hfirst, of_decide_eq_true hlast⟩)
  · obtain ⟨hfirst, hlast⟩ := Bool.and_eq_true_iff.mp hdigit
    exact .inl ⟨of_decide_eq_true hfirst, of_decide_eq_true hlast⟩

/-- The characters of a key are no spaces, commas or semicolons. -/
theorem isValueChar_of_isKeyChar {c : Char} (h : isKeyChar c = true) : isValueChar c = true := by
  simp only [isKeyChar, Bool.or_eq_true, beq_iff_eq, List.contains_iff_mem] at h
  rcases h with ((halnum | rfl) | rfl) | hother
  · have hbounds := toNat_of_isAlphanum halnum
    have hspace : isSpace c = false := by
      simp only [isSpace, Bool.or_eq_false_iff, Bool.and_eq_false_iff, decide_eq_false_iff_not,
        beq_eq_false_iff_ne]
      omega
    have hcomma : c ≠ ',' := by
      rintro rfl
      contradiction
    have hsemicolon : c ≠ ';' := by
      rintro rfl
      contradiction
    simp [isValueChar, hspace, hcomma, hsemicolon]
  · rfl
  · rfl
  · simp only [List.mem_cons, List.not_mem_nil, or_false] at hother
    rcases hother with rfl | rfl | rfl | rfl <;> rfl

/-- The characters of a key, and enough of them. -/
structure IsKey (credential : List Char) : Prop where
  length : 12 ≤ credential.length
  all : ∀ c ∈ credential, isKeyChar c = true

/-- A key with its prefix has characters of every class that has those of keys. -/
theorem IsKey.all_keyText (h : IsKey credential) (hcls : ∀ c, isKeyChar c = true → cls c = true) :
    ∀ c ∈ 's' :: 'k' :: '-' :: credential, cls c = true := by
  intro c hc
  simp only [List.mem_cons] at hc
  rcases hc with rfl | rfl | rfl | hc
  · exact hcls _ rfl
  · exact hcls _ rfl
  · exact hcls _ rfl
  · exact hcls c (h.all c hc)

theorem keyText_dropWhile (h : IsKey credential) (hcls : ∀ c, isKeyChar c = true → cls c = true) :
    (keyText credential suf).dropWhile cls = suf.dropWhile cls :=
  List.dropWhile_append_of_pos (h.all_keyText hcls)

/-- A value that is open where a key begins takes the key with it. -/
theorem sub_keyText (h : IsKey credential) :
    sub findValue (pre ++ keyText credential suf) =
      (scanFrom findValue ['x'] 0 pre).1 ++ sub findValue
        (if Opens findValue pre ['x'] then suf.dropWhile isValueChar
          else keyText credential suf) := by
  have hhead : ∃ c, (keyText credential suf).head? = some c ∧ isValueChar c = true :=
    ⟨'s', rfl, rfl⟩
  have hstops : authorization.kept.Stops (keyText credential suf) := stops_of_accepts rfl
  rw [← keyText_dropWhile h fun c => isValueChar_of_isKeyChar]
  exact sub_append_of_alike (List.dropWhile_suffix isValueChar)
    (List.dropWhile_suffix isValueChar) (length_dropWhile_lt_of_head hhead) (by decide)
    fun t _ _ => alike_of_many (rests_append hstops t) (rests_probe t) hhead ⟨'x', rfl, rfl⟩

/-- No authorization header begins in a text before another. -/
def NoHeader (text suf : List Char) : Prop :=
  ∀ t, t ≠ [] → t <:+ text → findValue (t ++ suf) = none

/-- A word with another first character is not read. -/
theorem findValue_cons {c : Char} (h : letter 'a' c = false) (text : List Char) :
    findValue (c :: text) = none := by
  have hrests : authorization.kept.rests (c :: text) = [] := by
    have hread : readWord (letters "authorization") (c :: text) = none :=
      if_neg (Bool.not_eq_true _ ▸ h)
    rw [authorization, rests_seq, rests_seq, rests_word, hread]
    rfl
  rw [findValue, Pattern.replaceAt, Pattern.first, hrests]
  rfl

/-- A key in which no header begins is kept by the first pattern. -/
theorem sub_findValue_keyText (h : NoHeader credential suf) :
    sub findValue (keyText credential suf) =
      ('s' :: 'k' :: '-' :: credential).map .kept ++ sub findValue suf := by
  refine sub_append_of_none fun t hne ht => ?_
  rcases List.suffix_cons_iff.mp ht with rfl | ht
  · exact findValue_cons rfl _
  rcases List.suffix_cons_iff.mp ht with rfl | ht
  · exact findValue_cons rfl _
  rcases List.suffix_cons_iff.mp ht with rfl | ht
  · exact findValue_cons rfl _
  · exact h t hne ht

/-- What is found where a key begins is the whole key. -/
theorem findKeyHere_keyText (h : IsKey credential) :
    findKeyHere (keyText credential suf) = some (mask, suf.dropWhile isKeyChar) := by
  have hread : readWord (letters "sk-") (keyText credential suf) = some (credential ++ suf) := rfl
  have hlong : 12 ≤ ((credential ++ suf).takeWhile isKeyChar).length := by
    rw [List.takeWhile_append_of_pos h.all, List.length_append]
    exact h.length.trans (Nat.le_add_right _ _)
  rw [findKeyHere, hread, Option.bind_some, if_pos hlong, List.dropWhile_append_of_pos h.all]

/-- A repetition that ends in a beginning ends there before every text. -/
theorem takeWhile_of_dropWhile_ne_nil {v : List Char} (h : v.dropWhile cls ≠ []) (x : List Char) :
    (v ++ x).takeWhile cls = v.takeWhile cls := by
  rw [List.takeWhile_append, if_neg]
  intro hlength
  have hsplit := congrArg List.length (List.takeWhile_append_dropWhile (p := cls) (l := v))
  rw [List.length_append, hlength] at hsplit
  exact h (List.eq_nil_of_length_eq_zero (by omega))

theorem takeWhile_of_dropWhile_eq_nil {v : List Char} (h : v.dropWhile cls = []) (x : List Char) :
    (v ++ x).takeWhile cls = v ++ x.takeWhile cls := by
  have hsplit : v.takeWhile cls = v := by
    have htake := List.takeWhile_append_dropWhile (p := cls) (l := v)
    rwa [h, List.append_nil] at htake
  rw [List.takeWhile_append, hsplit, if_pos rfl]

theorem keyText_takeWhile (h : IsKey credential) :
    12 ≤ ((keyText credential suf).takeWhile isKeyChar).length := by
  have hlength := h.length
  rw [keyText, List.takeWhile_append_of_pos (h.all_keyText fun c hc => hc), List.length_append]
  simp only [List.length_cons]
  omega

/-- What is found at a place before two keys is alike. -/
theorem alike_findKeyHere {other v : List Char} (hv : v <:+ t) (h : IsKey credential)
    (hother : IsKey other) :
    Alike t (keyText credential suf) (keyText other suf) (suf.dropWhile isKeyChar)
      (suf.dropWhile isKeyChar) (findKeyHere (v ++ keyText credential suf))
      (findKeyHere (v ++ keyText other suf)) := by
  by_cases hne : v = []
  · subst hne
    rw [List.nil_append, List.nil_append, findKeyHere_keyText h, findKeyHere_keyText hother]
    exact .across _
  have hstops : ∀ key, (word (letters "k-")).Stops (keyText key suf) := fun key =>
    stops_word_cons rfl (stops_word_cons rfl stops_word_nil)
  have hread : ∀ key, readWord (letters "sk-") (v ++ keyText key suf) =
      (readWord (letters "sk-") v).map (· ++ keyText key suf) := fun key =>
    readWord_cons_append (hstops key) hne
  rw [findKeyHere, findKeyHere, hread, hread]
  cases hrest : readWord (letters "sk-") v with
  | none => exact .none
  | some rest =>
      have hshorter : rest.length < t.length := by
        have hlength := length_readWord hrest
        have hle := hv.length_le
        have hletters : (letters "sk-").length = 3 := rfl
        omega
      simp only [Option.map_some, Option.bind_some]
      by_cases hend : rest.dropWhile isKeyChar = []
      · -- the characters of a key go on into the key
        rw [takeWhile_of_dropWhile_eq_nil hend, takeWhile_of_dropWhile_eq_nil hend,
          List.length_append, List.length_append,
          if_pos ((keyText_takeWhile h).trans (Nat.le_add_left _ _)),
          if_pos ((keyText_takeWhile hother).trans (Nat.le_add_left _ _)), List.dropWhile_append,
          List.dropWhile_append, hend, List.isEmpty_nil, if_pos rfl, if_pos rfl,
          keyText_dropWhile h fun c hc => hc, keyText_dropWhile hother fun c hc => hc]
        exact .across _
      · rw [takeWhile_of_dropWhile_ne_nil hend, takeWhile_of_dropWhile_ne_nil hend,
          List.dropWhile_append, List.dropWhile_append,
          if_neg (fun h => hend (List.isEmpty_iff.mp h)),
          if_neg (fun h => hend (List.isEmpty_iff.mp h))]
        split
        · exact .inside _ _ ((List.dropWhile_sublist _).length_le.trans_lt hshorter)
        · exact .none

theorem assigned_stops_keyText : assigned.Stops (keyText credential suf) := by
  have hspaces : spaces.Stops (keyText credential suf) := by
    intro c hc
    obtain rfl := Option.some.inj hc
    rfl
  have hnames : keyNames.Stops (keyText credential suf) := by
    refine ⟨⟨stops_of_accepts rfl, stops_of_accepts rfl⟩, ?_⟩
    iterate 6 refine stops_word_cons rfl ?_
    exact stops_word_nil
  exact ⟨⟨hnames, hspaces⟩, stops_word_cons rfl stops_word_nil, hspaces⟩

/-- What the second pattern finds before two keys is alike. -/
theorem alike_findKey {other : List Char} (h : IsKey credential) (hother : IsKey other) :
    Alike t (keyText credential suf) (keyText other suf) (suf.dropWhile isKeyChar)
      (suf.dropWhile isKeyChar) (findKey (t ++ keyText credential suf))
      (findKey (t ++ keyText other suf)) := by
  have hrests : ∀ key, (opt assigned).rests (t ++ keyText key suf) =
      ((opt assigned).rests t).map (· ++ keyText key suf) := fun key =>
    rests_append (show (opt assigned).Stops (keyText key suf) from assigned_stops_keyText) t
  rw [findKey_eq, findKey_eq, hrests, hrests, List.findSome?_map, List.findSome?_map]
  exact alike_findSome? fun v hv => alike_findKeyHere (suffix_of_mem_rests hv) h hother

theorem sub_findKey_here (h : IsKey credential) :
    sub findKey (keyText credential suf) =
      .replaced mask :: sub findKey (suf.dropWhile isKeyChar) := by
  have hrests : (opt assigned).rests (keyText credential suf) = [keyText credential suf] := by
    have hnone := rests_append (show assigned.Stops (keyText credential suf) from
      assigned_stops_keyText) []
    rw [List.nil_append] at hnone
    rw [rests_opt, hnone]
    rfl
  have hfound : findKey (keyText credential suf) = some (mask, suf.dropWhile isKeyChar) := by
    rw [findKey_eq, hrests, List.findSome?_singleton, findKeyHere_keyText h]
  exact sub_cons_some hfound ((List.dropWhile_suffix _).trans
    (List.suffix_append ('k' :: '-' :: credential) suf))

/-- **Keys are replaced** by the second pattern, whatever they are. -/
theorem sub_findKey_keyText {other : List Char} (h : IsKey credential) (hother : IsKey other)
    (pre suf : List Char) :
    sub findKey (pre ++ keyText credential suf) = sub findKey (pre ++ keyText other suf) := by
  have hshorter : ∀ key, IsKey key →
      (suf.dropWhile isKeyChar).length < (keyText key suf).length := by
    intro key hkey
    rw [← keyText_dropWhile hkey fun c hc => hc]
    exact length_dropWhile_lt_of_head ⟨'s', rfl, rfl⟩
  have hsuffix : ∀ key, suf.dropWhile isKeyChar <:+ keyText key suf := fun key =>
    (List.dropWhile_suffix _).trans (List.suffix_append ('s' :: 'k' :: '-' :: key) suf)
  have hthrough : ∀ key, IsKey key → sub findKey (pre ++ keyText key suf) =
      (scanFrom findKey (keyText other suf) 0 pre).1 ++ sub findKey
        (if Opens findKey pre (keyText other suf) then suf.dropWhile isKeyChar
          else keyText key suf) := fun key hkey =>
    sub_append_of_alike (hsuffix key) (hsuffix other) (hshorter key hkey) (hshorter other hother)
      fun t _ _ => alike_findKey hkey hother
  rw [hthrough credential h, hthrough other hother]
  split
  · rfl
  · rw [sub_findKey_here h, sub_findKey_here hother]

end RedactionService

end StoryForge
