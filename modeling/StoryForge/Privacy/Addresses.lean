import Mathlib.Data.List.TakeWhile
import StoryForge.Privacy.Passwords

/-!
# Passwords in database addresses

The third pattern replaces the password in the address of a database. It finds an address wherever
it stands.

## Main results

* `RedactionService.sub_findPassword` — passwords are replaced;
* `RedactionService.opens_findPassword` — an address opens the pattern, whatever comes before it.
-/

namespace StoryForge

open Regex

namespace RedactionService

variable {t q x password after : List Char} {unicode : UnicodeClasses}

theorem eq_of_letter_at {c : Char} (h : letter '@' c = true) : c = '@' := by
  simpa [letter] using h

theorem eq_of_letter_slash {c : Char} (h : letter '/' c = true) : c = '/' := by
  simpa [letter] using h

theorem readWord_at_of_ne {c : Char} (h : c ≠ '@') (text : List Char) :
    readWord (letters "@") (c :: text) = none :=
  if_neg fun hc => h (eq_of_letter_at hc)

/-- What the address pattern finds. -/
def findPassword (unicode : UnicodeClasses) (text : List Char) :
    Option (List Char × List Char) := (databaseUrl unicode).replaceAt mask text

/-- What is left behind a password at the beginning of a text and its closing sign. -/
def passwordHere (text : List Char) : Option (List Char) :=
  if 1 ≤ (text.takeWhile isPasswordChar).length then
    readWord (letters "@") (text.dropWhile isPasswordChar)
  else none

theorem eq_of_readWord_at {text rest : List Char} (h : readWord (letters "@") text = some rest) :
    text = '@' :: rest := by
  cases text with
  | nil => contradiction
  | cons c text =>
      by_cases hc : c = '@'
      · subst hc
        exact congrArg _ (Option.some.inj h)
      · rw [readWord_at_of_ne hc] at h
        contradiction

/-- The first way to read an address and its password. -/
theorem findPassword_eq (text : List Char) :
    findPassword unicode text =
      ((databaseUrl unicode).kept.rests text).findSome? fun a =>
        (passwordHere a).map fun rest =>
          (text.take (text.length - a.length) ++ mask ++ ['@'], rest) := by
  have hhere : ∀ a, ((databaseUrl unicode).hidden.rests a).findSome? (fun b =>
      ((databaseUrl unicode).closing.rests b).head?.map fun c => (a, b, c)) =
        (passwordHere a).map fun rest => (a, '@' :: rest, rest) := by
    intro a
    have hnone : ∀ c text, isPasswordChar c = true →
        ((word (letters "@")).rests (c :: text)).head?.map (fun rest => (a, c :: text, rest)) =
          none := by
      intro c text hc
      rw [rests_word, readWord_at_of_ne fun h => by rw [h] at hc; contradiction]
      rfl
    refine (findSome?_readMany_of_none hnone 1 a).trans ?_
    rw [passwordHere]
    split
    · rw [show (databaseUrl unicode).closing = word (letters "@") from rfl, rests_word]
      cases hrest : readWord (letters "@") (a.dropWhile isPasswordChar) with
      | none => rfl
      | some rest =>
          rw [eq_of_readWord_at hrest]
          rfl
    · rfl
  rw [findPassword, Pattern.replaceAt, Pattern.first]
  simp only [hhere, List.map_findSome?]
  refine findSome?_congr fun a _ => ?_
  rw [Function.comp_apply, Option.map_map]
  cases passwordHere a with
  | none => rfl
  | some rest => simp

/-- An address cannot be read over the colon before a password. -/
theorem address_stops (h : ∀ c ∈ x.head?, c ≠ '/') : (address unicode).Stops (':' :: x) := by
  have hslashes : (word (letters "://")).Stops (':' :: x) := by
    refine stops_word_cons ?_ (stops_word_cons rfl (stops_word_cons rfl stops_word_nil))
    cases x with
    | nil => rfl
    | cons c x => exact if_neg fun hc => h c rfl (eq_of_letter_slash hc)
  refine ⟨⟨stops_of_accepts rfl, stops_of_accepts rfl, stops_of_accepts rfl, ?_⟩, hslashes,
    stops_of_accepts rfl⟩
  intro c hc
  obtain rfl := Option.some.inj hc
  exact unicode.isWord_ascii ':' (by decide)

/-- The address before a password is read as if the text ended with its colon. -/
theorem rests_address (h : ∀ c ∈ x.head?, c ≠ '/') (t : List Char) :
    (databaseUrl unicode).kept.rests (t ++ [':'] ++ x) =
      ((databaseUrl unicode).kept.rests (t ++ [':'])).map (· ++ x) :=
  rests_before_separator (address_stops h) (address_stops fun _ h => nomatch h) rfl t

theorem Fits.noSlash (h : Fits isPasswordChar password) (x : List Char) :
    ∀ c ∈ (password ++ x).head?, c ≠ '/' := by
  intro c hc
  obtain ⟨d, hd, hcls⟩ := h.head x
  rw [Option.mem_def, hd] at hc
  obtain rfl := Option.some.inj hc
  rintro rfl
  contradiction

/-- A password is read up to the sign behind it. -/
theorem passwordHere_of_all {v : List Char} (hne : v ≠ []) (hall : ∀ c ∈ v, isPasswordChar c = true)
    (after : List Char) : passwordHere (v ++ '@' :: after) = some after := by
  have htake : 1 ≤ ((v ++ '@' :: after).takeWhile isPasswordChar).length := by
    rw [List.takeWhile_append_of_pos hall, List.length_append]
    exact (List.length_pos_iff.mpr hne).trans_le (Nat.le_add_right _ _)
  have hdrop : (v ++ '@' :: after).dropWhile isPasswordChar = '@' :: after :=
    (List.dropWhile_append_of_pos hall).trans (List.dropWhile_cons_of_neg Bool.false_ne_true)
  rw [passwordHere, if_pos htake, hdrop]
  rfl

/-- A password that ends in a beginning ends there before every text. -/
theorem passwordHere_append {v : List Char} (hend : v.dropWhile isPasswordChar ≠ [])
    (x : List Char) : passwordHere (v ++ x) = (passwordHere v).map (· ++ x) := by
  rw [passwordHere, passwordHere, takeWhile_of_dropWhile_ne_nil hend, List.dropWhile_append,
    if_neg fun h => hend (List.isEmpty_iff.mp h)]
  split
  · obtain ⟨c, rest, hrest⟩ := List.exists_cons_of_ne_nil hend
    rw [hrest, List.cons_append]
    by_cases hc : c = '@'
    · subst hc
      rfl
    · rw [readWord_at_of_ne hc, readWord_at_of_ne hc]
      rfl
  · rfl

/-- What is left behind a password that ends before a colon ends with the colon. -/
theorem rest_of_passwordHere {v rest : List Char} (h : passwordHere v = some rest)
    (hv : v <:+ t ++ [':']) : ∃ b, rest = b ++ [':'] ∧ b.length < t.length := by
  have hsuffix : '@' :: rest <:+ v := by
    rw [passwordHere] at h
    split at h
    · rw [← eq_of_readWord_at h]
      exact List.dropWhile_suffix _
    · contradiction
  obtain ⟨w, hw⟩ := hsuffix.trans hv
  rcases List.eq_nil_or_concat' rest with rfl | ⟨b, e, rfl⟩
  · exact absurd (List.append_inj' hw rfl).2 (by decide)
  · rw [← List.cons_append, ← List.append_assoc] at hw
    obtain ⟨rfl, he⟩ := List.append_inj' hw rfl
    refine ⟨b, by rw [List.singleton_inj.mp he], ?_⟩
    rw [List.length_append, List.length_cons]
    omega

theorem fits_probe : Fits isPasswordChar ['x'] := by
  refine ⟨List.cons_ne_nil _ _, fun c hc => ?_⟩
  rw [List.mem_singleton.mp hc]
  rfl

/-- What is found at a place before two passwords is alike. -/
theorem alike_findPassword (h : Fits isPasswordChar password) (t : List Char) :
    Alike t (passwordText password after) passwordProbe after []
      (findPassword unicode (t ++ passwordText password after))
      (findPassword unicode (t ++ passwordProbe)) := by
  have hfound : ∀ x, (∀ c ∈ x.head?, c ≠ '/') → findPassword unicode (t ++ ':' :: x) =
      ((databaseUrl unicode).kept.rests (t ++ [':'])).findSome? fun v =>
        (passwordHere (v ++ x)).map fun rest =>
          ((t ++ [':']).take ((t ++ [':']).length - v.length) ++ mask ++ ['@'], rest) := by
    intro x hx
    rw [List.append_cons, findPassword_eq, rests_address hx, List.findSome?_map]
    refine findSome?_congr fun v hv => ?_
    rw [Function.comp_apply, take_length_sub_append (suffix_of_mem_rests hv).length_le]
  rw [passwordProbe, passwordText, passwordText, hfound _ (h.noSlash _),
    hfound _ (fits_probe.noSlash _)]
  refine alike_findSome? fun v hv => ?_
  by_cases hend : v.dropWhile isPasswordChar = []
  · -- the characters of a password go on into the password
    have hall : ∀ c ∈ v, isPasswordChar c = true := List.dropWhile_eq_nil_iff.mp hend
    have hhere : ∀ pw after, Fits isPasswordChar pw →
        passwordHere (v ++ (pw ++ '@' :: after)) = some after := by
      intro pw after hpw
      rw [← List.append_assoc]
      refine passwordHere_of_all (List.append_ne_nil_of_right_ne_nil _ hpw.ne_nil) (fun c hc => ?_)
        after
      exact (List.mem_append.mp hc).elim (hall c) (hpw.all c)
    rw [hhere _ _ h, hhere _ _ fits_probe]
    exact .across _
  · rw [passwordHere_append hend, passwordHere_append hend]
    cases hrest : passwordHere v with
    | none => exact .none
    | some rest =>
        obtain ⟨b, hb, hshorter⟩ := rest_of_passwordHere hrest (suffix_of_mem_rests hv)
        rw [hb, Option.map_some, Option.map_some, Option.map_some, Option.map_some,
          ← List.append_cons, ← List.append_cons]
        exact .inside _ b hshorter

/-- **Passwords are replaced** by the third pattern, whatever they are. -/
theorem sub_findPassword (hopen : Opens (findPassword unicode) q passwordProbe)
    (h : Fits isPasswordChar password) :
    sub (findPassword unicode) (q ++ passwordText password after) =
      (scanFrom (findPassword unicode) passwordProbe 0 q).1 ++
        sub (findPassword unicode) after := by
  have hsuffix : after <:+ passwordText password after :=
    ((List.suffix_cons '@' after).trans (List.suffix_append password _)).trans
      (List.suffix_cons ':' _)
  have hshorter : after.length < (passwordText password after).length := by
    simp only [passwordText, List.length_cons, List.length_append]
    omega
  have hthrough := @sub_append_of_alike _ q _ _ _ _ hsuffix List.nil_suffix hshorter (by decide)
    fun t _ _ => @alike_findPassword _ after unicode h t
  rw [hthrough, if_pos hopen]

/-! ### Addresses -/

/-- The beginning of the address of a database, with what is said of a driver. -/
def schemeText (driver : List Char) : List Char :=
  "postgresql".toList ++ (driver ++ "://".toList)

/-- The address of a database up to the colon of the password. -/
def addressText (driver user : List Char) : List Char := schemeText driver ++ user

/-- An address may name a driver behind a plus sign. -/
def IsDriver (unicode : UnicodeClasses) (driver : List Char) : Prop :=
  driver = [] ∨ ∃ name, driver = '+' :: name ∧ Fits unicode.isWord name

variable {pre driver user : List Char} {c : Char}

theorem addressText_append (driver user x : List Char) :
    addressText driver user ++ x =
      "postgresql".toList ++ (driver ++ ':' :: '/' :: '/' :: (user ++ x)) := by
  unfold addressText schemeText
  rw [List.append_assoc, List.append_assoc, List.append_assoc]
  rfl

theorem IsDriver.mem (h : IsDriver unicode driver) (hc : c ∈ driver) :
    c = '+' ∨ unicode.isWord c = true := by
  rcases h with rfl | ⟨name, rfl, hname⟩
  · contradiction
  · exact (List.mem_cons.mp hc).imp_right (hname.all c)

/-- A driver has no signs but the plus sign. -/
theorem IsDriver.not_mem (h : IsDriver unicode driver) (hascii : c.toNat < 128)
    (hplus : c ≠ '+') (hsign : (c.isAlphanum || c == '_') = false) : c ∉ driver := by
  intro hc
  rcases h.mem hc with rfl | hword
  · exact hplus rfl
  · rw [unicode.isWord_ascii c hascii, hsign] at hword
    contradiction

theorem Fits.user_at (h : Fits isUserChar user) : '@' ∉ user := fun hmem =>
  absurd (h.all _ hmem) Bool.false_ne_true

/-- What is left behind an address comes behind a closing sign. -/
theorem suffix_of_findPassword {text out rest : List Char}
    (h : findPassword unicode text = some (out, rest)) : '@' :: rest <:+ text := by
  rw [findPassword_eq] at h
  obtain ⟨a, ha, hfound⟩ := List.exists_of_findSome?_eq_some h
  obtain ⟨b, hb, heq⟩ := Option.map_eq_some_iff.mp hfound
  obtain ⟨-, rfl⟩ := Prod.mk.inj heq
  rw [passwordHere] at hb
  split at hb
  · rw [← eq_of_readWord_at hb]
    exact (List.dropWhile_suffix _).trans (suffix_of_mem_rests ha)
  · contradiction

theorem at_notMem_addressText (hdriver : IsDriver unicode driver) (huser : Fits isUserChar user) :
    '@' ∉ addressText driver user := by
  intro hmem
  rcases List.mem_append.mp hmem with hscheme | hname
  · rcases List.mem_append.mp hscheme with hletters | hbehind
    · exact absurd hletters (by decide)
    rcases List.mem_append.mp hbehind with hsaid | hslashes
    · exact hdriver.not_mem (by decide) (by decide) rfl hsaid
    · exact absurd hslashes (by decide)
  · exact huser.user_at hname

/-- What is found before an address ends before it, or with it. -/
theorem rest_of_findPassword (hdriver : IsDriver unicode driver) (huser : Fits isUserChar user)
    {out rest : List Char}
    (hfound : findPassword unicode (t ++ (addressText driver user ++ passwordProbe)) =
      some (out, rest))
    (hlt : rest.length < (addressText driver user ++ passwordProbe).length) : rest = [] := by
  have hsuffix : '@' :: rest <:+ addressText driver user ++ passwordProbe :=
    List.suffix_of_suffix_length_le (suffix_of_findPassword hfound) (List.suffix_append _ _) hlt
  obtain ⟨w, hw⟩ := hsuffix
  rcases List.eq_nil_or_concat' rest with rfl | ⟨b, e, rfl⟩
  · rfl
  · exfalso
    have hprobe : addressText driver user ++ passwordProbe =
        (addressText driver user ++ [':', 'x']) ++ ['@'] := by
      rw [List.append_assoc]
      rfl
    rw [hprobe, ← List.cons_append, ← List.append_assoc] at hw
    have hmem : '@' ∈ addressText driver user ++ [':', 'x'] := by
      rw [← (List.append_inj' hw rfl).1]
      exact List.mem_append_right _ List.mem_cons_self
    rcases List.mem_append.mp hmem with haddress | hbehind
    · exact at_notMem_addressText hdriver huser haddress
    · exact absurd hbehind (by decide)

/-- A repetition reads a text of its class up to a character that is not. -/
theorem Fits.mem_readMany {cls : Char → Bool} {name : List Char} (h : Fits cls name) {d : Char}
    (hd : cls d = false) (x : List Char) : d :: x ∈ readMany cls 1 (name ++ d :: x) := by
  refine List.mem_of_mem_head? ?_
  rw [head?_readMany, List.takeWhile_append_of_pos h.all, List.dropWhile_append_of_pos h.all,
    if_pos, List.dropWhile_cons_of_neg (Bool.not_eq_true _ ▸ hd)]
  · rfl
  · rw [List.length_append]
    exact (List.length_pos_iff.mpr h.ne_nil).trans_le (Nat.le_add_right _ _)

/-- A driver is read up to the colon behind it. -/
theorem IsDriver.mem_rests (h : IsDriver unicode driver) (x : List Char) :
    ':' :: x ∈ (opt (seq (word (letters "+")) (many unicode.isWord 1))).rests
      (driver ++ ':' :: x) := by
  rcases h with rfl | ⟨name, rfl, hname⟩
  · exact List.mem_append_right _ (List.mem_singleton_self _)
  · exact List.mem_append_left _ (List.mem_flatMap.mpr ⟨name ++ ':' :: x, Option.mem_toList.mpr rfl,
      hname.mem_readMany (unicode.isWord_ascii ':' (by decide)) x⟩)

/-- An address is read up to the colon behind its user. -/
theorem nil_mem_rests_address (hdriver : IsDriver unicode driver) (huser : Fits isUserChar user) :
    [] ∈ (databaseUrl unicode).kept.rests (addressText driver user ++ [':']) := by
  have hscheme : ':' :: '/' :: '/' :: (user ++ [':']) ∈ (seq (word (letters "postgres"))
      (seq (opt (word (letters "ql"))) (opt (seq (word (letters "+"))
        (many unicode.isWord 1))))).rests (addressText driver user ++ [':']) := by
    have hread : readWord (letters "postgres") ("postgresql".toList ++
        (driver ++ ':' :: '/' :: '/' :: (user ++ [':']))) =
          some ('q' :: 'l' :: (driver ++ ':' :: '/' :: '/' :: (user ++ [':']))) := rfl
    rw [addressText_append, rests_seq, rests_word, hread, Option.toList_some,
      List.flatMap_singleton, rests_seq]
    exact List.mem_flatMap.mpr ⟨_, List.mem_append_left _ (Option.mem_toList.mpr rfl),
      hdriver.mem_rests _⟩
  have hname : [':'] ∈ (seq (word (letters "://")) (many isUserChar 1)).rests
      (':' :: '/' :: '/' :: (user ++ [':'])) :=
    List.mem_flatMap.mpr ⟨_, Option.mem_toList.mpr rfl, huser.mem_readMany rfl []⟩
  exact List.mem_flatMap.mpr ⟨_, List.mem_flatMap.mpr ⟨_, hscheme, hname⟩,
    Option.mem_toList.mpr rfl⟩

/-- An address and its password are found. -/
theorem findPassword_address (hdriver : IsDriver unicode driver) (huser : Fits isUserChar user) :
    ∃ out, findPassword unicode (addressText driver user ++ passwordProbe) = some (out, []) := by
  cases hfound : findPassword unicode (addressText driver user ++ passwordProbe) with
  | none =>
      rw [passwordProbe, passwordText, List.append_cons, findPassword_eq,
        rests_address fun c hc => fits_probe.noSlash _ c hc, List.findSome?_map,
        List.findSome?_eq_none_iff] at hfound
      exact absurd (hfound [] (nil_mem_rests_address hdriver huser)) (Option.some_ne_none _)
  | some found =>
      obtain ⟨out, rest⟩ := found
      have hlt := (suffix_of_findPassword hfound).length_le
      obtain rfl := rest_of_findPassword (t := []) hdriver huser hfound hlt
      exact ⟨out, rfl⟩

theorem addressText_ne_nil : addressText driver user ≠ [] := List.cons_ne_nil _ _

/-- **An address opens the third pattern**, whatever comes before it. -/
theorem opens_findPassword (hdriver : IsDriver unicode driver) (huser : Fits isUserChar user)
    (pre : List Char) :
    Opens (findPassword unicode) (pre ++ addressText driver user) passwordProbe := by
  obtain ⟨out, hfound⟩ := findPassword_address hdriver huser
  have hcarry : (scanFrom (findPassword unicode) (addressText driver user ++ passwordProbe) 0
      pre).2 = 0 ∨ (scanFrom (findPassword unicode) (addressText driver user ++ passwordProbe) 0
        pre).2 = (addressText driver user ++ passwordProbe).length := by
    refine carry_of_found (P := fun carry => carry = 0 ∨
      carry = (addressText driver user ++ passwordProbe).length) (.inl rfl)
      fun t _ _ out rest hrest hlt => .inr ?_
    rw [rest_of_findPassword hdriver huser hrest hlt]
    rfl
  rw [Opens, scanFrom_append]
  rcases hcarry with hzero | hlength
  · rw [hzero]
    exact opens_of_found addressText_ne_nil hfound (Nat.succ_pos _)
  · rw [hlength, List.length_append, scanFrom_beyond]
    exact Nat.succ_pos _

end RedactionService

end StoryForge
