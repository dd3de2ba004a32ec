import StoryForge.Privacy.Addresses

/-!
# Texts before passwords

The first two patterns rewrite a text before the third comes to an address in it. They leave the
address, with a user that may be another, if no value and no key of the text before the address
goes on in it.

## Main results

* `RedactionService.findValue_keeps_address`, `RedactionService.findKey_keeps_address` — the
  patterns leave an address;
* `RedactionService.opens_of_address` — so the third pattern finds it.
-/

namespace StoryForge

open Regex

namespace RedactionService

variable {t x pre driver user : List Char} {unicode : UnicodeClasses} {c : Char}

/-! ### Header values -/

/-- The name of a driver does not end in the name of the authorization header. -/
def NotAuthorization (driver : List Char) : Prop :=
  ∀ v, v <:+ driver → readWord (letters "authorization") v ≠ some []

theorem IsDriver.isSpace_eq (h : IsDriver unicode driver) (hc : c ∈ driver) :
    isSpace c = false := by
  rcases h.mem hc with rfl | hword
  · rfl
  · by_contra hspace
    rw [unicode.isWord_space c (Bool.not_eq_false _ ▸ hspace)] at hword
    contradiction

theorem IsDriver.isAssignment_eq (h : IsDriver unicode driver) (hc : c ∈ driver) :
    isAssignment c = false := by
  by_contra hassign
  have hsign : c = ':' ∨ c = '=' := by
    simpa [isAssignment, or_iff_not_imp_left] using hassign
  rcases hsign with rfl | rfl
  · exact h.not_mem (by decide) (by decide) rfl hc
  · exact h.not_mem (by decide) (by decide) rfl hc

/-- No header begins in a driver. -/
theorem findValue_driver (hdriver : IsDriver unicode driver) (hname : NotAuthorization driver)
    (ht : t <:+ driver) (x : List Char) : findValue (t ++ ':' :: x) = none := by
  have hrests : authorization.kept.rests (t ++ ':' :: x) = [] := by
    have hread := readWord_append_of_stops (show (word (letters "authorization")).Stops (':' :: x)
      from stops_of_accepts rfl) t
    rw [authorization, rests_seq, rests_seq, rests_word, hread]
    cases hrest : readWord (letters "authorization") t with
    | none => rfl
    | some rest =>
        cases rest with
        | nil => exact absurd hrest (hname t ht)
        | cons c rest =>
            have hc : c ∈ driver :=
              ht.subset ((readWord_suffix hrest).subset List.mem_cons_self)
            have hspaces : spaces.rests (c :: rest ++ ':' :: x) = [c :: rest ++ ':' :: x] :=
              readMany_of_stops (fun d hd => Option.some.inj hd ▸ hdriver.isSpace_eq hc) 0
            rw [Option.map_some, Option.toList_some, List.flatMap_singleton, hspaces,
              List.flatMap_singleton, rests_seq, rests_word, List.cons_append, readWord,
              hdriver.isAssignment_eq hc]
            rfl
  rw [findValue, Pattern.replaceAt, Pattern.first, hrests]
  rfl

/-- A text has no letter, whether small or not. -/
def lacks (small : Char) (text : List Char) : Bool := text.all fun c => !letter small c

theorem letter_of_lacks {small : Char} {text : List Char} (h : lacks small text = true)
    (hc : c ∈ text) : letter small c = false := by
  have hother := List.all_eq_true.mp h c hc
  rwa [Bool.not_eq_true'] at hother

theorem scan_findValue_letters {p : List Char} (h : lacks 'a' p = true) :
    scanFrom findValue x 0 p = (p.map .kept, 0) := by
  refine scanFrom_of_none fun t hne ht => ?_
  obtain ⟨c, t, rfl⟩ := List.exists_cons_of_ne_nil hne
  exact findValue_cons (letter_of_lacks h (ht.subset List.mem_cons_self)) (t ++ x)

/-- The first pattern keeps the beginning of an address. -/
theorem scan_findValue_scheme (hdriver : IsDriver unicode driver)
    (hname : NotAuthorization driver) (x : List Char) :
    scanFrom findValue x 0 (schemeText driver) = ((schemeText driver).map .kept, 0) := by
  have hletters := fun y => @scan_findValue_letters y "postgresql".toList (by decide)
  have hslashes := @scan_findValue_letters x "://".toList (by decide)
  have hsaid : scanFrom findValue ("://".toList ++ x) 0 driver = (driver.map .kept, 0) :=
    scanFrom_of_none fun t _ ht => findValue_driver hdriver hname ht _
  unfold schemeText
  rw [scanFrom_append, hletters, scanFrom_append, hsaid, hslashes, List.map_append,
    List.map_append]

/-- A replacement of a header value ends with the mask, before which comes a beginning of the
text. -/
theorem out_of_findValue {text out rest : List Char} (h : findValue text = some (out, rest)) :
    ∃ begun, out = begun ++ mask ∧ begun <+: text ∧ begun.length + rest.length ≤ text.length :=
  out_of_replaceAt h

theorem all_mask : mask.all isUserChar = true := by decide

/-- The first pattern does the same before an address as before other texts. -/
theorem scan_findValue_address (hclosed : Closed pre) (x : List Char) :
    scanFrom findValue (addressText driver user ++ x) 0 pre =
      ((scanFrom findValue ['x'] 0 pre).1, 0) := by
  have hhead : ∃ c, (addressText driver user ++ x).head? = some c ∧ isValueChar c = true :=
    ⟨'p', rfl, rfl⟩
  have hstops : authorization.kept.Stops (addressText driver user ++ x) := stops_of_accepts rfl
  exact scanFrom_of_alike (List.dropWhile_suffix isValueChar) (List.dropWhile_suffix isValueChar)
    (length_dropWhile_lt_of_head hhead) (by decide)
    (fun t _ _ => alike_of_many (rests_append hstops t) (rests_probe t) hhead ⟨'x', rfl, rfl⟩)
    hclosed

/-- **The first pattern leaves an address**, with a user of the same kind. -/
theorem findValue_keeps_address (hdriver : IsDriver unicode driver)
    (hname : NotAuthorization driver) (huser : Fits isUserChar user) (hclosed : Closed pre)
    (hvalue : ¬Opens findValue (pre ++ addressText driver user) passwordProbe) :
    ∃ left, Fits isUserChar left ∧
      textOf (scanFrom findValue passwordProbe 0 (pre ++ addressText driver user)).1 =
        textOf (scanFrom findValue ['x'] 0 pre).1 ++ addressText driver left := by
  have haddress : scanFrom findValue passwordProbe 0 (addressText driver user) =
      ((schemeText driver).map .kept ++ (scanFrom findValue passwordProbe 0 user).1,
        (scanFrom findValue passwordProbe 0 user).2) := by
    unfold addressText
    rw [scanFrom_append, scan_findValue_scheme hdriver hname]
  have hscan : scanFrom findValue passwordProbe 0 (pre ++ addressText driver user) =
      ((scanFrom findValue ['x'] 0 pre).1 ++ ((schemeText driver).map .kept ++
        (scanFrom findValue passwordProbe 0 user).1),
          (scanFrom findValue passwordProbe 0 user).2) := by
    rw [scanFrom_append, scan_findValue_address hclosed, haddress]
  have hopen : ¬Opens findValue user passwordProbe := by
    unfold Opens at hvalue
    rwa [hscan] at hvalue
  refine ⟨textOf (scanFrom findValue passwordProbe 0 user).1, ⟨?_, ?_⟩, ?_⟩
  · refine textOf_ne_nil (fun t out rest hfound => ?_) huser.ne_nil
    obtain ⟨begun, rfl, -, -⟩ := out_of_findValue hfound
    exact List.append_ne_nil_of_right_ne_nil _ (List.cons_ne_nil _ _)
  · refine all_textOf_of_closed hopen huser.all fun t _ ht out rest hfound hinside c hc => ?_
    obtain ⟨begun, rfl, hbegun, hle⟩ := out_of_findValue hfound
    rcases List.mem_append.mp hc with hc | hc
    · have hshort : begun.length ≤ t.length := by
        rw [List.length_append] at hle
        omega
      have htext := List.prefix_of_prefix_length_le hbegun (List.prefix_append t _) hshort
      exact huser.all c (ht.subset (htext.subset hc))
    · exact List.all_eq_true.mp all_mask c hc
  · rw [hscan, textOf_append, textOf_append, textOf_map_kept]
    rfl

/-! ### Keys -/

/-- A key begins in a text and goes on in the beginning of an address behind it. -/
def KeyInto (text : List Char) : Prop :=
  ∃ v, v <:+ text ∧ findKeyHere (v ++ "postgresql".toList) = some (mask, [])

theorem assigned_stops_address (y : List Char) : assigned.Stops ("postgresql".toList ++ y) := by
  have hspaces : spaces.Stops ("postgresql".toList ++ y) := by
    intro c hc
    obtain rfl := Option.some.inj hc
    rfl
  have hnames : keyNames.Stops ("postgresql".toList ++ y) := by
    refine ⟨⟨⟨?_, ?_, ?_⟩, stops_of_accepts rfl⟩, ?_⟩
    · exact stops_word_cons rfl (stops_word_cons rfl (stops_word_cons rfl stops_word_nil))
    · exact stops_of_accepts rfl
    · exact stops_of_accepts rfl
    · exact stops_of_accepts rfl
  exact ⟨⟨hnames, hspaces⟩, stops_word_cons rfl stops_word_nil, hspaces⟩

/-- The prefix of a key has characters of keys. -/
theorem isKeyChar_of_letters {c : Char} (h : ∃ cls ∈ letters "sk-", cls c = true) :
    isKeyChar c = true := by
  obtain ⟨cls, hmem, hc⟩ := h
  obtain ⟨d, hd, rfl⟩ := List.mem_map.mp hmem
  have hletters : d = 's' ∨ d = 'k' ∨ d = '-' := by
    simpa using hd
  rcases hletters with rfl | rfl | rfl
  · have hcases : (c = 's' ∨ c = 'S') ∨ c = '\u017f' := by simpa [letter] using hc
    rcases hcases with (rfl | rfl) | rfl <;> rfl
  · have hcases : (c = 'k' ∨ c = 'K') ∨ c = '\u212a' := by simpa [letter] using hc
    rcases hcases with (rfl | rfl) | rfl <;> rfl
  · have hcase : c = '-' := by simpa [letter] using hc
    subst hcase
    rfl

/-- The characters of keys at the beginning of an address are those of one word. -/
theorem takeWhile_address (hdriver : IsDriver unicode driver) (x : List Char) :
    (addressText driver user ++ x).takeWhile isKeyChar = "postgresql".toList := by
  rw [addressText_append]
  rcases hdriver with rfl | ⟨name, rfl, -⟩
  · rw [List.nil_append, takeWhile_append_cons rfl]
    decide
  · rw [List.cons_append, takeWhile_append_cons rfl]
    decide

/-- A key that goes on in an address goes on in the word at its beginning. -/
theorem findKeyHere_before_address (hdriver : IsDriver unicode driver) {v out rest : List Char}
    (h : findKeyHere (v ++ (addressText driver user ++ x)) = some (out, rest))
    (hlt : rest.length < (addressText driver user ++ x).length) :
    (∀ c ∈ v, isKeyChar c = true) ∧ findKeyHere (v ++ "postgresql".toList) = some (mask, []) := by
  have hne : v ≠ [] := by
    rintro rfl
    contradiction
  have hread : ∀ y, readWord (letters "sk-") (v ++ ("postgresql".toList ++ y)) =
      (readWord (letters "sk-") v).map (· ++ ("postgresql".toList ++ y)) := fun y =>
    readWord_cons_append (stops_word_cons rfl (stops_word_cons rfl stops_word_nil)) hne
  have haddress := addressText_append driver user x
  rw [findKeyHere, haddress, hread, ← haddress] at h
  obtain ⟨whole, hwhole, hfound⟩ := Option.bind_eq_some_iff.mp h
  obtain ⟨begun, hbegun, rfl⟩ := Option.map_eq_some_iff.mp hwhole
  split at hfound
  · next hlong =>
      obtain ⟨-, rfl⟩ := Prod.mk.inj (Option.some.inj hfound)
      have hend : begun.dropWhile isKeyChar = [] := by
        by_contra hend
        rw [List.dropWhile_append, if_neg fun h => hend (List.isEmpty_iff.mp h),
          List.length_append] at hlt
        omega
      have hall : ∀ c ∈ begun, isKeyChar c = true := List.dropWhile_eq_nil_iff.mp hend
      have hscheme : ∀ c ∈ begun ++ "postgresql".toList, isKeyChar c = true := by
        intro c hc
        have hletters : "postgresql".toList.all isKeyChar = true := by decide
        exact (List.mem_append.mp hc).elim (hall c) (List.all_eq_true.mp hletters c)
      refine ⟨fun c hc => (mem_of_readWord hbegun c hc).elim (hall c) isKeyChar_of_letters, ?_⟩
      rw [takeWhile_of_dropWhile_eq_nil hend, takeWhile_address hdriver] at hlong
      have hshort := hread []
      rw [List.append_nil, hbegun] at hshort
      rw [findKeyHere, hshort, Option.map_some, Option.bind_some,
        List.takeWhile_eq_self_iff.mpr hscheme, if_pos hlong, List.dropWhile_eq_nil_iff.mpr hscheme]
  · contradiction

/-- A key that goes on in an address begins in the text before it. -/
theorem findKey_before_address (hdriver : IsDriver unicode driver) {out rest : List Char}
    (h : findKey (t ++ (addressText driver user ++ x)) = some (out, rest))
    (hlt : rest.length < (addressText driver user ++ x).length) :
    ∃ v, v <:+ t ∧ (∀ c ∈ v, isKeyChar c = true) ∧
      findKeyHere (v ++ "postgresql".toList) = some (mask, []) := by
  have hstops : (opt assigned).Stops (addressText driver user ++ x) := by
    rw [addressText_append]
    exact assigned_stops_address _
  rw [findKey_eq, rests_append hstops, List.findSome?_map] at h
  obtain ⟨v, hv, hfound⟩ := List.exists_of_findSome?_eq_some h
  exact ⟨v, suffix_of_mem_rests hv, findKeyHere_before_address hdriver hfound hlt⟩

/-- No key begins in a driver. -/
theorem findKey_driver (hdriver : IsDriver unicode driver) (ht : t <:+ driver) (x : List Char) :
    findKey (t ++ ':' :: '/' :: x) = none := by
  have hsolid : Solid ('/' :: x) := by
    intro c hc
    obtain rfl := Option.some.inj hc
    rfl
  rw [List.append_cons, findKey_eq, rests_assigned hsolid, List.findSome?_map,
    List.findSome?_eq_none_iff]
  intro v hv
  have hread := readWord_append_of_stops (show (word (letters "sk-")).Stops ('/' :: x)
    from stops_of_accepts rfl) v
  rw [Function.comp_apply, findKeyHere, hread]
  cases hrest : readWord (letters "sk-") v with
  | none => rfl
  | some rest =>
      exfalso
      obtain ⟨d, hd, hdash⟩ := exists_of_readWord hrest
        (List.mem_map.mpr ⟨'-', by decide, rfl⟩)
      obtain rfl : d = '-' := by simpa [letter] using hdash
      rcases List.mem_append.mp ((suffix_of_mem_rests hv).subset hd) with hdriverd | hcolon
      · exact hdriver.not_mem (by decide) (by decide) rfl (ht.subset hdriverd)
      · exact absurd hcolon (by decide)

/-- The second pattern keeps the beginning of an address. -/
theorem scan_findKey_scheme (hdriver : IsDriver unicode driver) (x : List Char) :
    scanFrom findKey x 0 (schemeText driver) = ((schemeText driver).map .kept, 0) := by
  have hletters : ∀ y, scanFrom findKey y 0 "postgresql".toList =
      ("postgresql".toList.map .kept, 0) := fun y => by
    refine scanFrom_of_none fun t hne ht => ?_
    iterate 10
      rcases List.suffix_cons_iff.mp ht with rfl | ht
      · first
          | exact findKey_cons rfl rfl rfl _
          | exact findKey_cons_cons rfl rfl rfl rfl _
    exact absurd (List.suffix_nil.mp ht) hne
  have hslashes : scanFrom findKey x 0 "://".toList = ("://".toList.map .kept, 0) := by
    refine scanFrom_of_none fun t hne ht => ?_
    iterate 3
      rcases List.suffix_cons_iff.mp ht with rfl | ht
      · exact findKey_cons rfl rfl rfl _
    exact absurd (List.suffix_nil.mp ht) hne
  have hsaid : scanFrom findKey ("://".toList ++ x) 0 driver = (driver.map .kept, 0) :=
    scanFrom_of_none fun t _ ht => findKey_driver hdriver ht _
  unfold schemeText
  rw [scanFrom_append, hletters, scanFrom_append, hsaid, hslashes, List.map_append,
    List.map_append]

theorem out_of_findKey {text out rest : List Char} (h : findKey text = some (out, rest)) :
    out = mask := by
  rw [findKey_eq] at h
  obtain ⟨v, -, hfound⟩ := List.exists_of_findSome?_eq_some h
  obtain ⟨behind, -, hhere⟩ := Option.bind_eq_some_iff.mp hfound
  split at hhere
  · exact (Prod.mk.inj (Option.some.inj hhere)).1.symm
  · contradiction

/-- **The second pattern leaves an address**, with a user of the same kind. -/
theorem findKey_keeps_address (hdriver : IsDriver unicode driver) (huser : Fits isUserChar user)
    {before : List Char}
    (hkey : ∀ v, v <:+ before → (∀ c ∈ v, isKeyChar c = true) →
      findKeyHere (v ++ "postgresql".toList) ≠ some (mask, [])) :
    ∃ pieces left, Fits isUserChar left ∧
      textOf (scanFrom findKey passwordProbe 0 (before ++ addressText driver user)).1 =
        textOf pieces ++ addressText driver left := by
  have hclosed : ¬Opens findKey before (addressText driver user ++ passwordProbe) := by
    refine not_opens fun t _ ht out rest hfound => ?_
    by_contra hlt
    obtain ⟨v, hv, hall, hhere⟩ := findKey_before_address hdriver hfound (Nat.not_le.mp hlt)
    exact hkey v (hv.trans ht) hall hhere
  have haddress : scanFrom findKey passwordProbe 0 (addressText driver user) =
      ((schemeText driver).map .kept ++ (scanFrom findKey passwordProbe 0 user).1,
        (scanFrom findKey passwordProbe 0 user).2) := by
    unfold addressText
    rw [scanFrom_append, scan_findKey_scheme hdriver]
  refine ⟨(scanFrom findKey (addressText driver user ++ passwordProbe) 0 before).1,
    textOf (scanFrom findKey passwordProbe 0 user).1, ⟨?_, ?_⟩, ?_⟩
  · refine textOf_ne_nil (fun t out rest hfound => ?_) huser.ne_nil
    rw [out_of_findKey hfound]
    exact List.cons_ne_nil _ _
  · refine all_textOf_of_closed not_opens_findKey huser.all
      fun t _ _ out rest hfound _ c hc => ?_
    rw [out_of_findKey hfound] at hc
    exact List.all_eq_true.mp all_mask c hc
  · rw [scanFrom_append, Nat.eq_zero_of_not_pos hclosed, haddress, textOf_append, textOf_append,
      textOf_map_kept]
    rfl

/-- **An address is still there for the third pattern**, if no value and no key of the text before
goes on in it. -/
theorem opens_of_address (hdriver : IsDriver unicode driver) (hname : NotAuthorization driver)
    (huser : Fits isUserChar user) (hclosed : Closed pre) (hkey : ¬KeyInto pre)
    (hvalue : ¬Opens findValue (pre ++ addressText driver user) passwordProbe) :
    Opens (findPassword unicode) (textOf (scanFrom findKey passwordProbe 0
      (textOf (scanFrom findValue passwordProbe 0 (pre ++ addressText driver user)).1)).1)
        passwordProbe := by
  obtain ⟨first, hfirst, hone⟩ := findValue_keeps_address hdriver hname huser hclosed hvalue
  have hends : ∀ text out rest, findValue text = some (out, rest) →
      ∃ begun d, out = begun ++ [d] ∧ isKeyChar d = false := by
    intro text out rest hfound
    obtain ⟨begun, rfl, -, -⟩ := out_of_findValue hfound
    refine ⟨begun ++ "[REDACTED".toList, ']', ?_, rfl⟩
    rw [List.append_assoc]
    rfl
  obtain ⟨pieces, second, hsecond, htwo⟩ := findKey_keeps_address hdriver hfirst
    fun v hv hall hhere => hkey ⟨v, suffix_of_suffix_textOf hends hall hv, hhere⟩
  rw [hone, htwo]
  exact opens_findPassword hdriver hsecond (textOf pieces)

end RedactionService

end StoryForge
