import StoryForge.Privacy.Credentials

/-!
# Passwords before the third pattern

The first two patterns come to a password behind a colon before the third does. They go through
the text before it as they would before any other password, and keep it if nothing that they look
for begins in it.

## Main results

* `RedactionService.sub_findValue_open` — a value that goes on up to a password takes it along;
* `RedactionService.sub_findValue_closed` — otherwise the first pattern does not depend on it;
* `RedactionService.sub_findKey_password` — nor does the second.
-/

namespace StoryForge

open Regex

namespace RedactionService

/-- A colon, a password and what follows it. -/
def passwordText (password after : List Char) : List Char := ':' :: (password ++ '@' :: after)

/-- A password to try a pattern with. -/
def passwordProbe : List Char := passwordText ['x'] []

/-- A text has no spaces. -/
def NoSpaces (text : List Char) : Prop := ∀ c ∈ text, isSpace c = false

variable {t q x password after : List Char} {cls : Char → Bool}

/-! ### Authorization values before passwords -/

theorem NoSpaces.solid (h : NoSpaces password) : Solid (password ++ '@' :: after) := by
  intro c hc
  cases password with
  | nil =>
      obtain rfl := Option.some.inj hc
      rfl
  | cons d password =>
      obtain rfl := Option.some.inj hc
      exact h _ List.mem_cons_self

/-- A password has no scheme. -/
theorem afterColon_password (h : NoSpaces password) :
    afterColon.rests (password ++ '@' :: after) = [password ++ '@' :: after] := by
  have hscheme : (seq (word (letters "bearer")) (many isSpace 1)).rests
      (password ++ '@' :: after) = [] := by
    rw [rests_seq, rests_word, readWord_append_of_stops (stops_of_accepts rfl)]
    cases hrest : readWord (letters "bearer") password with
    | none => rfl
    | some rest =>
        have hspaces : NoSpaces rest := fun c hc => h c ((readWord_suffix hrest).subset hc)
        rw [Option.map_some, Option.toList_some, List.flatMap_singleton, rests_many,
          readMany_of_stops hspaces.solid]
        rfl
  rw [afterColon, rests_seq, spaces, rests_many, readMany_of_stops h.solid, if_pos rfl,
    List.flatMap_singleton, rests_opt, hscheme]
  rfl

/-- The authorization pattern reads up to a password as if the text ended there. -/
theorem rests_password (h : NoSpaces password) :
    authorization.kept.rests (t ++ [':'] ++ (password ++ '@' :: after)) =
      (authorization.kept.rests (t ++ [':'])).map (· ++ (password ++ '@' :: after)) :=
  rests_separated (stops_of_accepts rfl) (stops_of_accepts rfl) rfl rfl (afterColon_password h) rfl
    t

theorem noSpaces_probe : NoSpaces ['x'] := by
  intro c hc
  rw [List.mem_singleton.mp hc]
  rfl

theorem Fits.noSpaces (h : Fits isValueChar password) : NoSpaces password := fun c hc =>
  isSpace_of_isValueChar (h.all c hc)

/-- A value that is open before a password takes the password with it. -/
theorem sub_findValue_open (hopen : Opens findValue q passwordProbe)
    (h : Fits isValueChar password) :
    sub findValue (q ++ passwordText password after) =
      (scanFrom findValue passwordProbe 0 q).1 ++ sub findValue (after.dropWhile isValueChar) := by
  have hend : (password ++ '@' :: after).dropWhile isValueChar = after.dropWhile isValueChar := by
    rw [h.dropWhile]
    exact List.dropWhile_cons_of_pos rfl
  have hsuffix : after.dropWhile isValueChar <:+ passwordText password after :=
    (List.dropWhile_suffix _).trans (((List.suffix_cons '@' after).trans
      (List.suffix_append password _)).trans (List.suffix_cons ':' _))
  have hshorter : (after.dropWhile isValueChar).length < (passwordText password after).length := by
    have hle := (List.dropWhile_sublist isValueChar (l := after)).length_le
    simp only [passwordText, List.length_cons, List.length_append]
    omega
  have halike : ∀ t, Alike t (passwordText password after) passwordProbe
      (after.dropWhile isValueChar) [] (findValue (t ++ passwordText password after))
      (findValue (t ++ passwordProbe)) := by
    intro t
    rw [← hend]
    exact alike_of_many_cons rfl (rests_password h.noSpaces) (rests_password noSpaces_probe)
      (h.head _) ⟨'x', rfl, rfl⟩
  have hthrough := @sub_append_of_alike _ q _ _ _ _ hsuffix List.nil_suffix hshorter (by decide)
    fun t _ _ => halike t
  rw [hthrough, if_pos hopen]

/-- Values that end before a password end there whatever the password is. -/
theorem sub_findValue_closed (hclosed : ¬Opens findValue q passwordProbe)
    (h : NoSpaces password) :
    sub findValue (q ++ passwordText password after) =
      (scanFrom findValue passwordProbe 0 q).1 ++ sub findValue (passwordText password after) := by
  have hprobe : ∀ t, findValue (t ++ passwordProbe) =
      ((authorization.kept.rests (t ++ [':'])).find? (startsIn isValueChar)).map fun v =>
        ((t ++ [':']).take ((t ++ [':']).length - v.length) ++ mask,
          (v ++ ['x', '@']).dropWhile isValueChar) := fun t => by
    rw [passwordProbe, passwordText, List.append_cons]
    exact replaceAt_of_many (rests_password noSpaces_probe) fun _ => ⟨'x', rfl, rfl⟩
  have hpassword : ∀ t, ((authorization.kept.rests (t ++ [':'])).find?
        (startsIn isValueChar) ≠ some []) →
      findValue (t ++ passwordText password after) =
      ((authorization.kept.rests (t ++ [':'])).find? (startsIn isValueChar)).map fun v =>
        ((t ++ [':']).take ((t ++ [':']).length - v.length) ++ mask,
          (v ++ (password ++ '@' :: after)).dropWhile isValueChar) := fun t hne => by
    rw [passwordText, List.append_cons]
    exact replaceAt_of_many (rests_password h) fun hnil => absurd hnil hne
  refine sub_append_of_closed hclosed (fun t _ _ hnone => ?_) fun t _ _ out rest hsome hinside => ?_
  · rw [hprobe, Option.map_eq_none_iff] at hnone
    rw [hpassword t (by rw [hnone]; exact Option.some_ne_none _ |>.symm), hnone]
    rfl
  · rw [hprobe, Option.map_eq_some_iff] at hsome
    obtain ⟨v, hv, heq⟩ := hsome
    obtain ⟨rfl, rfl⟩ := Prod.mk.inj heq
    have hstarts : startsIn isValueChar v = true := by simpa using List.find?_some hv
    obtain ⟨w, hw⟩ := suffix_of_mem_rests (List.mem_of_find?_eq_some hv)
    rcases List.eq_nil_or_concat' v with rfl | ⟨v, e, rfl⟩
    · exact absurd hinside (by decide)
    -- what is left ends with the colon before the password
    rw [← List.append_assoc] at hw
    obtain ⟨rfl, he⟩ := List.append_inj' hw rfl
    obtain rfl := List.singleton_inj.mp he
    rw [← List.append_cons, List.dropWhile_append] at hinside ⊢
    cases hrest : v.dropWhile isValueChar with
    | nil =>
        rw [hrest] at hinside
        exact absurd hinside (by decide)
    | cons c rest =>
        have hne : v ≠ [] := by
          rintro rfl
          contradiction
        have hstartsv : startsIn isValueChar v = true := by
          cases v with
          | nil => exact absurd rfl hne
          | cons _ _ => exact hstarts
        refine ⟨c :: rest, rfl, ?_, ?_⟩
        · rw [← hrest]
          exact (length_dropWhile_lt hstartsv hne).trans_le
            (List.suffix_append w v).length_le
        · rw [hpassword _ (by rw [hv]; simp), hv, Option.map_some, ← List.append_cons,
            List.dropWhile_append, hrest]
          rfl

/-- Whether a value is found before the end of a password does not depend on what follows. -/
theorem findValue_at (t after : List Char) :
    findValue (t ++ '@' :: after) = none ↔
      (authorization.kept.rests t).find? (startsIn isValueChar) = none := by
  have hfound : findValue (t ++ '@' :: after) =
      ((authorization.kept.rests t).find? (startsIn isValueChar)).map _ :=
    replaceAt_of_many (rests_append (stops_of_accepts rfl) t) fun _ => ⟨'@', rfl, rfl⟩
  rw [hfound, Option.map_eq_none_iff]

/-- A password in which no header begins is kept by the first pattern. -/
theorem sub_findValue_passwordText (h : NoHeader password ['@']) :
    sub findValue (passwordText password after) =
      (':' :: password ++ ['@']).map .kept ++ sub findValue after := by
  have hnone : ∀ t, t ≠ [] → t <:+ ':' :: password → findValue (t ++ '@' :: after) = none := by
    intro t hne ht
    rcases List.suffix_cons_iff.mp ht with rfl | ht
    · exact findValue_cons rfl _
    · exact (findValue_at t after).mpr ((findValue_at t []).mp (h t hne ht))
  rw [passwordText, ← List.cons_append, sub_append_of_none hnone,
    sub_cons_none (findValue_cons rfl after), List.map_append, List.append_assoc]
  rfl

/-! ### Keys before passwords -/

/-- No key begins in a text. -/
def NoKey (text : List Char) : Prop := ∀ t, t ≠ [] → t <:+ text → findKey (t ++ ['@']) = none

/-- Whether a key is found before the end of a password does not depend on what follows. -/
theorem findKey_at (t after : List Char) :
    findKey (t ++ '@' :: after) = none ↔ apiKey.hidden.rests t = [] := by
  have hrests := rests_append (show apiKey.hidden.Stops ('@' :: after) from stops_of_accepts rfl) t
  rw [findKey, apiKey, replaceAt_of_hidden, Option.map_eq_none_iff, List.head?_eq_none_iff]
  rw [show (seq (opt assigned) (seq (word (letters "sk-")) (many isKeyChar 12))).rests
    (t ++ '@' :: after) = _ from hrests, List.map_eq_nil_iff]
  rfl

theorem NoKey.findKey (h : NoKey password) (hne : t ≠ []) (ht : t <:+ password)
    (after : List Char) : findKey (t ++ '@' :: after) = none :=
  (findKey_at t after).mpr ((findKey_at t []).mp (h t hne ht))

/-- Nothing is found where neither a name of a key nor a key is begun. -/
theorem findKey_of_names {text : List Char} (hnames : keyNames.rests text = [])
    (hkey : readWord (letters "sk-") text = none) : findKey text = none := by
  have hassigned : assigned.rests text = [] := by
    rw [assigned, rests_seq, rests_seq, hnames]
    rfl
  rw [findKey_eq, rests_opt, hassigned, List.nil_append, List.findSome?_singleton, findKeyHere,
    hkey]
  rfl

/-- No key begins at the beginning of a text in which none begins. -/
theorem findKeyHere_of_none {text : List Char} (h : findKey text = none) :
    findKeyHere text = none := by
  rw [findKey_eq, List.findSome?_eq_none_iff] at h
  exact h text (List.mem_append_right _ (List.mem_singleton_self _))

/-- A name of a key begins with one of three letters. -/
theorem findKey_cons {c : Char} (ha : letter 'a' c = false) (ht : letter 't' c = false)
    (hs : letter 's' c = false) (text : List Char) : findKey (c :: text) = none := by
  have hread : ∀ (d : Char) (classes : List (Char → Bool)), letter d c = false →
      readWord (letter d :: classes) (c :: text) = none := fun d classes h =>
    if_neg (Bool.not_eq_true _ ▸ h)
  refine findKey_of_names ?_ (hread _ _ hs)
  rw [keyNames, rests_alt, rests_alt, rests_seq, rests_word, rests_word, rests_word]
  rw [show readWord (letters "api") (c :: text) = none from hread _ _ ha,
    show readWord (letters "token") (c :: text) = none from hread _ _ ht,
    show readWord (letters "secret") (c :: text) = none from hread _ _ hs]
  rfl

/-- The second letter of a name of a key is one of four. -/
theorem findKey_cons_cons {c d : Char} (hp : letter 'p' d = false) (ho : letter 'o' d = false)
    (he : letter 'e' d = false) (hk : letter 'k' d = false) (text : List Char) :
    findKey (c :: d :: text) = none := by
  have hread : ∀ (a b : Char) (classes : List (Char → Bool)), letter b d = false →
      readWord (letter a :: letter b :: classes) (c :: d :: text) = none := fun a b classes h => by
    rw [readWord, readWord, h]
    split <;> rfl
  refine findKey_of_names ?_ (hread _ _ _ hk)
  rw [keyNames, rests_alt, rests_alt, rests_seq, rests_word, rests_word, rests_word]
  rw [show readWord (letters "api") (c :: d :: text) = none from hread _ _ _ hp,
    show readWord (letters "token") (c :: d :: text) = none from hread _ _ _ ho,
    show readWord (letters "secret") (c :: d :: text) = none from hread _ _ _ he]
  rfl

/-- A password in which no key begins is kept by the second pattern. -/
theorem sub_findKey_passwordText (h : NoKey password) :
    sub findKey (passwordText password after) =
      (':' :: password ++ ['@']).map .kept ++ sub findKey after := by
  have hnone : ∀ t, t ≠ [] → t <:+ ':' :: password → findKey (t ++ '@' :: after) = none := by
    intro t hne ht
    rcases List.suffix_cons_iff.mp ht with rfl | ht
    · exact findKey_cons rfl rfl rfl _
    · exact h.findKey hne ht after
  rw [passwordText, ← List.cons_append, sub_append_of_none hnone,
    sub_cons_none (findKey_cons rfl rfl rfl after), List.map_append, List.append_assoc]
  rfl

/-- What the key pattern finds in a text before a colon, and what is left of the text then. -/
def findKeyBefore (t : List Char) : Option (List Char × List Char) :=
  ((opt assigned).rests (t ++ [':'])).findSome? fun v =>
    if v = [] then none else findKeyHere v.dropLast

theorem takeWhile_append_cons {d : Char} (hd : cls d = false) (v x : List Char) :
    (v ++ d :: x).takeWhile cls = v.takeWhile cls := by
  induction v with
  | nil => simp [hd]
  | cons c v ih => rw [List.cons_append, List.takeWhile_cons, List.takeWhile_cons, ih]

theorem dropWhile_append_cons {d : Char} (hd : cls d = false) (v x : List Char) :
    (v ++ d :: x).dropWhile cls = v.dropWhile cls ++ d :: x := by
  induction v with
  | nil => simp [hd]
  | cons c v ih =>
      rw [List.cons_append, List.dropWhile_cons, List.dropWhile_cons, ih]
      split <;> rfl

/-- A key ends where a character follows that keys do not have. -/
theorem findKeyHere_append {d : Char} (hkey : isKeyChar d = false)
    (hstops : (word (letters "sk-")).Stops (d :: x)) (v : List Char) :
    findKeyHere (v ++ d :: x) = (findKeyHere v).map fun found => (found.1, found.2 ++ d :: x) := by
  rw [findKeyHere, findKeyHere, readWord_append_of_stops hstops]
  cases readWord (letters "sk-") v with
  | none => rfl
  | some rest =>
      simp only [Option.map_some, Option.bind_some, takeWhile_append_cons hkey,
        dropWhile_append_cons hkey]
      split <;> rfl

/-- The name of a key is read up to its colon as if the text ended there. -/
theorem rests_assigned (hx : Solid x) (t : List Char) :
    (opt assigned).rests (t ++ [':'] ++ x) = ((opt assigned).rests (t ++ [':'])).map (· ++ x) := by
  have hspaces : spaces.rests x = [x] := by
    rw [spaces, rests_many, readMany_of_stops hx, if_pos rfl]
  have hrests : assigned.rests (t ++ [':'] ++ x) = (assigned.rests (t ++ [':'])).map (· ++ x) :=
    rests_separated (stops_of_accepts rfl) (stops_of_accepts rfl) rfl rfl hspaces rfl t
  rw [rests_opt, rests_opt, hrests, List.map_append, List.map_singleton]

/-- The key pattern finds the same before every password in which no key begins. -/
theorem findKey_password (h : NoSpaces password)
    (hnone : findKeyHere (password ++ '@' :: after) = none) (t : List Char) :
    findKey (t ++ passwordText password after) =
      (findKeyBefore t).map fun found => (found.1, found.2 ++ passwordText password after) := by
  rw [passwordText, List.append_cons, findKey_eq, rests_assigned h.solid, List.findSome?_map,
    findKeyBefore, List.map_findSome?]
  refine findSome?_congr fun v hv => ?_
  rcases List.eq_nil_or_concat' v with rfl | ⟨v, e, rfl⟩
  · exact hnone
  obtain rfl : ':' = e := by
    obtain ⟨w, hw⟩ := suffix_of_mem_rests hv
    rw [← List.append_assoc] at hw
    exact (List.singleton_inj.mp (List.append_inj' hw rfl).2).symm
  have hstops : (word (letters "sk-")).Stops (':' :: (password ++ '@' :: after)) :=
    stops_of_accepts rfl
  have hne : v ++ [':'] ≠ [] := List.append_ne_nil_of_right_ne_nil _ (List.cons_ne_nil _ _)
  simp only [Function.comp_apply, if_neg hne, List.dropLast_concat]
  rw [← List.append_cons, findKeyHere_append rfl hstops]

theorem length_findKeyHere {v out rest : List Char} (h : findKeyHere v = some (out, rest)) :
    rest.length < v.length := by
  obtain ⟨behind, hread, hfound⟩ := Option.bind_eq_some_iff.mp h
  have hlength := length_readWord hread
  have hthree : (letters "sk-").length = 3 := rfl
  split at hfound
  · obtain ⟨-, rfl⟩ := Prod.mk.inj (Option.some.inj hfound)
    have hle := (List.dropWhile_sublist isKeyChar (l := behind)).length_le
    omega
  · contradiction

/-- A key that ends before a colon is shorter than what comes before it. -/
theorem length_findKeyBefore {out rest : List Char} (h : findKeyBefore t = some (out, rest)) :
    rest.length < t.length := by
  obtain ⟨v, hv, hfound⟩ := List.exists_of_findSome?_eq_some h
  split at hfound
  · contradiction
  · have hle := (suffix_of_mem_rests hv).length_le
    have hlt := length_findKeyHere hfound
    rw [List.length_dropLast] at hlt
    rw [List.length_append, List.length_singleton] at hle
    omega

theorem findKey_probe (t : List Char) :
    findKey (t ++ passwordProbe) =
      (findKeyBefore t).map fun found => (found.1, found.2 ++ passwordProbe) :=
  findKey_password noSpaces_probe rfl t

/-- No key goes on over the colon before the password that is tried. -/
theorem not_opens_findKey : ¬Opens findKey q passwordProbe := by
  refine not_opens fun t _ _ out rest hsome => ?_
  rw [findKey_probe, Option.map_eq_some_iff] at hsome
  obtain ⟨found, -, heq⟩ := hsome
  obtain ⟨-, rfl⟩ := Prod.mk.inj heq
  rw [List.length_append]
  exact Nat.le_add_left _ _

/-- **What the key pattern does before a password** does not depend on the password. -/
theorem sub_findKey_password (h : NoSpaces password)
    (hnone : findKeyHere (password ++ '@' :: after) = none) (q : List Char) :
    sub findKey (q ++ passwordText password after) =
      (scanFrom findKey passwordProbe 0 q).1 ++ sub findKey (passwordText password after) := by
  refine sub_append_of_closed not_opens_findKey (fun t _ _ hfound => ?_)
    fun t _ _ out rest hsome _ => ?_
  · rw [findKey_probe, Option.map_eq_none_iff] at hfound
    rw [findKey_password h hnone, hfound]
    rfl
  · rw [findKey_probe, Option.map_eq_some_iff] at hsome
    obtain ⟨⟨out, v⟩, hfound, heq⟩ := hsome
    obtain ⟨rfl, rfl⟩ := Prod.mk.inj heq
    refine ⟨v, rfl, length_findKeyBefore hfound, ?_⟩
    rw [findKey_password h hnone, hfound]
    rfl

end RedactionService

end StoryForge
