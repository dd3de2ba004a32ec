import StoryForge.Jobs.Service
import StoryForge.Privacy.Surroundings

/-!
# What redaction conceals

A text may have a credential in it: the value of an authorization header, a key, or the password
in the address of a database. Redaction conceals it if what comes out does not depend on it.

## Main results

* `RedactionService.conceals_of_hidden` — credentials that the patterns hide are concealed;
* `RedactionService.conceals_fails` — the value of a header with another scheme is not.
-/

namespace StoryForge

open Regex

namespace RedactionService

/-! ### Credentials in texts -/

/-- The kinds of credentials. -/
inductive CredentialKind
  | authorization (scheme : List Char)
  | apiKey
  | databasePassword (driver user : List Char)

/-- What comes right before a credential. -/
def CredentialKind.opening : CredentialKind → List Char
  | authorization scheme => headerOf scheme
  | apiKey => "sk-".toList
  | databasePassword driver user => addressText driver user ++ [':']

/-- What comes right behind it. -/
def CredentialKind.closing : CredentialKind → List Char
  | databasePassword _ _ => ['@']
  | _ => []

/-- A text with a credential. -/
def CredentialKind.text (kind : CredentialKind) (pre credential suf : List Char) : List Char :=
  pre ++ (kind.opening ++ (credential ++ (kind.closing ++ suf)))

/-- A text is a credential of a kind. -/
def IsCredential (unicode : UnicodeClasses) : CredentialKind → List Char → Prop
  | .authorization scheme, credential => scheme ≠ [] ∧ credential ≠ []
  | .apiKey, credential => IsKey credential
  | .databasePassword driver user, credential =>
      IsDriver unicode driver ∧ Fits isUserChar user ∧ credential ≠ []

/-- The patterns hide a password behind a text and an address: with the value of a header that goes
on up to it, or as the password of the address, which no value and no key of the text may go on
in. -/
def IsHiddenPassword (driver user pre password : List Char) : Prop :=
  if Opens findValue (pre ++ addressText driver user) passwordProbe then Fits isValueChar password
  else NotAuthorization driver ∧ Closed pre ∧ ¬KeyInto pre ∧ Fits isPasswordChar password ∧
    NoHeader password ['@'] ∧ NoKey password

/-- The patterns hide a credential of a kind between two texts. -/
def IsHidden (kind : CredentialKind) (pre suf credential : List Char) : Prop :=
  match kind with
  | .authorization scheme => isBearer scheme = true ∧ Closed pre ∧ Fits isValueChar credential
  | .apiKey => Opens findValue pre ['x'] ∨ NoHeader credential suf
  | .databasePassword driver user => IsHiddenPassword driver user pre credential

variable {unicode : UnicodeClasses} {kind : CredentialKind} {x y pre suf credential : List Char}

/-! ### From the patterns to the output -/

/-- The patterns leave the same of two texts if the last does, and as often. -/
theorem redactPatterns_congr
    (hvalue : amountOf (sub findValue x) = amountOf (sub findValue y))
    (hkey : amountOf (sub findKey (textOf (sub findValue x))) =
      amountOf (sub findKey (textOf (sub findValue y))))
    (hpassword : sub (findPassword unicode) (textOf (sub findKey (textOf (sub findValue x)))) =
      sub (findPassword unicode) (textOf (sub findKey (textOf (sub findValue y))))) :
    redactPatterns unicode x = redactPatterns unicode y := by
  have hrendered : ∀ value, redactPatterns unicode value =
      (textOf (sub (findPassword unicode) (textOf (sub findKey (textOf (sub findValue value))))),
        [("authorization", amountOf (sub findValue value)),
          ("api_key", amountOf (sub findKey (textOf (sub findValue value)))),
          ("database_url", amountOf (sub (findPassword unicode)
            (textOf (sub findKey (textOf (sub findValue value))))))]) := fun value => rfl
  rw [hrendered, hrendered, hvalue, hkey, hpassword]

theorem redactPatterns_of_value (h : sub findValue x = sub findValue y) :
    redactPatterns unicode x = redactPatterns unicode y :=
  redactPatterns_congr (by rw [h]) (by rw [h]) (by rw [h])

theorem redactPatterns_of_key (hvalue : amountOf (sub findValue x) = amountOf (sub findValue y))
    (hkey : sub findKey (textOf (sub findValue x)) = sub findKey (textOf (sub findValue y))) :
    redactPatterns unicode x = redactPatterns unicode y :=
  redactPatterns_congr hvalue (by rw [hkey]) (by rw [hkey])

/-! ### Each kind of credential -/

variable {other scheme driver user : List Char}

/-- Values of bearer headers are concealed by the first pattern. -/
theorem redactPatterns_header (hscheme : isBearer scheme = true) (hclosed : Closed pre)
    (h : Fits isValueChar credential) (hother : Fits isValueChar other) :
    redactPatterns unicode (CredentialKind.text (.authorization scheme) pre credential suf) =
      redactPatterns unicode (CredentialKind.text (.authorization scheme) pre other suf) := by
  have htext : ∀ value, CredentialKind.text (.authorization scheme) pre value suf =
      pre ++ (headerOf scheme ++ (value ++ suf)) := fun value => rfl
  refine redactPatterns_of_value ?_
  rw [htext, htext, sub_headerOf hclosed hscheme h, sub_headerOf hclosed hscheme hother]

/-- What the first pattern leaves of a text with a key. -/
theorem sub_findValue_key (hkey : IsKey credential) (hclosed : ¬Opens findValue pre ['x'])
    (h : NoHeader credential suf) :
    sub findValue (pre ++ keyText credential suf) =
      (scanFrom findValue ['x'] 0 pre).1 ++
        (('s' :: 'k' :: '-' :: credential).map .kept ++ sub findValue suf) := by
  rw [sub_keyText hkey, if_neg hclosed, sub_findValue_keyText h]

/-- Keys are concealed by the second pattern, or with a value that goes on in them. -/
theorem redactPatterns_key (hkey : IsKey credential) (hotherKey : IsKey other)
    (h : IsHidden .apiKey pre suf credential) (hother : IsHidden .apiKey pre suf other) :
    redactPatterns unicode (CredentialKind.text .apiKey pre credential suf) =
      redactPatterns unicode (CredentialKind.text .apiKey pre other suf) := by
  have htext : ∀ value, CredentialKind.text .apiKey pre value suf = pre ++ keyText value suf :=
    fun value => rfl
  rw [htext, htext]
  by_cases hopen : Opens findValue pre ['x']
  · refine redactPatterns_of_value ?_
    rw [sub_keyText hkey, sub_keyText hotherKey, if_pos hopen, if_pos hopen]
  · have hsub := sub_findValue_key hkey hopen (h.resolve_left hopen)
    have hsubOther := sub_findValue_key hotherKey hopen (hother.resolve_left hopen)
    have hleft : ∀ value, textOf ((scanFrom findValue ['x'] 0 pre).1 ++
        (('s' :: 'k' :: '-' :: value).map .kept ++ sub findValue suf)) =
          textOf (scanFrom findValue ['x'] 0 pre).1 ++
            keyText value (textOf (sub findValue suf)) := fun value => by
      rw [textOf_append, textOf_append, textOf_map_kept, keyText]
    refine redactPatterns_of_key ?_ ?_
    · rw [hsub, hsubOther]
      simp only [amountOf_append, amountOf_map_kept]
    · rw [hsub, hsubOther, hleft, hleft]
      exact sub_findKey_keyText hkey hotherKey _ _

theorem Fits.noSpaces_of_password (h : Fits isPasswordChar credential) : NoSpaces credential := by
  intro c hc
  have hcls := h.all c hc
  simp only [isPasswordChar, Bool.and_eq_true, Bool.not_eq_true'] at hcls
  exact hcls.1.1

/-- The text of a substitution that keeps a password. -/
theorem textOf_password (pieces others : List Piece) (value : List Char) :
    textOf (pieces ++ ((':' :: value ++ ['@']).map .kept ++ others)) =
      textOf pieces ++ passwordText value (textOf others) := by
  rw [textOf_append, textOf_append, textOf_map_kept, passwordText, List.append_assoc]
  rfl

/-- What the first pattern leaves of a text with a password in which no value goes on. -/
theorem sub_findValue_password {q : List Char} (hclosed : ¬Opens findValue q passwordProbe)
    (h : Fits isPasswordChar credential) (hvalue : NoHeader credential ['@']) (suf : List Char) :
    sub findValue (q ++ passwordText credential suf) =
      (scanFrom findValue passwordProbe 0 q).1 ++
        ((':' :: credential ++ ['@']).map .kept ++ sub findValue suf) := by
  rw [sub_findValue_closed hclosed h.noSpaces_of_password, sub_findValue_passwordText hvalue]

/-- What the second pattern leaves of a text with a password in which no key begins. -/
theorem sub_findKey_before (h : Fits isPasswordChar credential) (hkey : NoKey credential)
    (q suf : List Char) :
    sub findKey (q ++ passwordText credential suf) =
      (scanFrom findKey passwordProbe 0 q).1 ++
        ((':' :: credential ++ ['@']).map .kept ++ sub findKey suf) := by
  have hhere := findKeyHere_of_none (hkey.findKey h.ne_nil List.suffix_rfl suf)
  rw [sub_findKey_password h.noSpaces_of_password hhere, sub_findKey_passwordText hkey]

/-- Passwords are concealed by the third pattern, or with a value that goes on in them. -/
theorem redactPatterns_password (hdriver : IsDriver unicode driver) (huser : Fits isUserChar user)
    (h : IsHiddenPassword driver user pre credential)
    (hother : IsHiddenPassword driver user pre other) :
    redactPatterns unicode
        (CredentialKind.text (.databasePassword driver user) pre credential suf) =
      redactPatterns unicode
        (CredentialKind.text (.databasePassword driver user) pre other suf) := by
  have htext : ∀ value, CredentialKind.text (.databasePassword driver user) pre value suf =
      (pre ++ addressText driver user) ++ passwordText value suf := fun value => by
    simp only [CredentialKind.text, CredentialKind.opening, CredentialKind.closing,
      passwordText, List.append_assoc, List.singleton_append]
  rw [htext, htext]
  unfold IsHiddenPassword at h hother
  by_cases hopen : Opens findValue (pre ++ addressText driver user) passwordProbe
  · rw [if_pos hopen] at h hother
    refine redactPatterns_of_value ?_
    rw [sub_findValue_open hopen h, sub_findValue_open hopen hother]
  · rw [if_neg hopen] at h hother
    obtain ⟨hname, hclosed, hinto, hfits, hvalue, hkey⟩ := h
    obtain ⟨-, -, -, hotherFits, hotherValue, hotherKey⟩ := hother
    have haddress := opens_of_address hdriver hname huser hclosed hinto hopen
    have hone := sub_findValue_password hopen hfits hvalue suf
    have honeOther := sub_findValue_password hopen hotherFits hotherValue suf
    refine redactPatterns_congr ?_ ?_ ?_
    · rw [hone, honeOther]
      simp only [amountOf_append, amountOf_map_kept]
    · rw [hone, honeOther, textOf_password, textOf_password, sub_findKey_before hfits hkey,
        sub_findKey_before hotherFits hotherKey]
      simp only [amountOf_append, amountOf_map_kept]
    · rw [hone, honeOther, textOf_password, textOf_password, sub_findKey_before hfits hkey,
        sub_findKey_before hotherFits hotherKey, textOf_password, textOf_password,
        sub_findPassword haddress hfits, sub_findPassword haddress hotherFits]

/-- The patterns leave the same, whatever a hidden credential is. -/
theorem redactPatterns_hidden (h : IsCredential unicode kind credential)
    (hother : IsCredential unicode kind other) (hhidden : IsHidden kind pre suf credential)
    (hotherHidden : IsHidden kind pre suf other) :
    redactPatterns unicode (kind.text pre credential suf) =
      redactPatterns unicode (kind.text pre other suf) := by
  cases kind with
  | authorization scheme =>
      exact redactPatterns_header hhidden.1 hhidden.2.1 hhidden.2.2 hotherHidden.2.2
  | apiKey => exact redactPatterns_key h hother hhidden hotherHidden
  | databasePassword driver user =>
      exact redactPatterns_password h.1 h.2.1 hhidden hotherHidden

/-! ### Errors and messages -/

/-- Redaction of a string, without options. -/
def redactText (unicode : UnicodeClasses) (value : String) : String :=
  String.ofList (redact unicode {} value.toList).1

/-- Settings whose redaction is the one of the patterns. -/
def withRedaction (unicode : UnicodeClasses) (settings : Settings) : Settings :=
  { settings with redact := redactText unicode }

theorem redact_of_patterns (options : RedactOptions)
    (h : redactPatterns unicode x = redactPatterns unicode y) :
    redact unicode options x = redact unicode options y := by
  rw [redact, redact, h]

theorem redactText_of_patterns (h : redactPatterns unicode x = redactPatterns unicode y) :
    redactText unicode (String.ofList x) = redactText unicode (String.ofList y) := by
  rw [redactText, redactText, String.toList_ofList, String.toList_ofList, redact_of_patterns {} h]

/-- The form in which an exception is stored. -/
theorem safeError_of_patterns (settings : Settings) (typeName : String)
    (h : redactPatterns unicode x = redactPatterns unicode y) :
    JobService.safeError (withRedaction unicode settings) ⟨typeName, String.ofList x⟩ =
      JobService.safeError (withRedaction unicode settings) ⟨typeName, String.ofList y⟩ :=
  congrArg (fun text => (truncate 100 typeName, truncate 1000 text)) (redactText_of_patterns h)

/-- A gateway whose redaction is the one of the patterns. -/
def redacting (unicode : UnicodeClasses) (gateway : Gateway) : Gateway :=
  { gateway with settings := withRedaction unicode gateway.settings }

/-- What a candidate gets that may get as little as it can. -/
theorem prepare_of_patterns {gateway : Gateway} (hstrict : gateway.context.privacyPolicy = .strict)
    (name version role : String) (before after : List (String × String))
    (h : redactPatterns unicode x = redactPatterns unicode y) :
    prepare (redacting unicode gateway)
        ⟨name, version, before ++ (role, String.ofList x) :: after⟩ true =
      prepare (redacting unicode gateway)
        ⟨name, version, before ++ (role, String.ofList y) :: after⟩ true := by
  have hpolicy : (redacting unicode gateway).context.privacyPolicy = .strict := hstrict
  have hredact : (redacting unicode gateway).settings.redact = redactText unicode := rfl
  have hsent : ∀ request : PromptRequest, prepare (redacting unicode gateway) request true =
      .ok (request.messages.map fun message => redactText unicode message.2) := by
    intro request
    rw [prepare, hpolicy, hredact, if_neg (by decide), if_neg (by decide), List.map_map]
    rfl
  rw [hsent, hsent, List.map_append, List.map_append, List.map_cons, List.map_cons,
    redactText_of_patterns h]

/-! ### Credentials that are concealed -/

/-- **Redaction conceals the credentials that the patterns hide**, and so do the stored forms of
exceptions and the messages to candidates that get as little as they can. -/
theorem conceals_of_hidden (h : IsCredential unicode kind credential)
    (hother : IsCredential unicode kind other)
    (hhidden : credential = other ∨
      IsHidden kind pre suf credential ∧ IsHidden kind pre suf other) :
    (∀ options, redact unicode options (kind.text pre credential suf) =
      redact unicode options (kind.text pre other suf)) ∧
    (∀ settings typeName, JobService.safeError (withRedaction unicode settings)
        ⟨typeName, String.ofList (kind.text pre credential suf)⟩ =
      JobService.safeError (withRedaction unicode settings)
        ⟨typeName, String.ofList (kind.text pre other suf)⟩) ∧
    ∀ gateway : Gateway, gateway.context.privacyPolicy = .strict →
      ∀ name version role before after,
        prepare (redacting unicode gateway) ⟨name, version,
            before ++ (role, String.ofList (kind.text pre credential suf)) :: after⟩ true =
          prepare (redacting unicode gateway) ⟨name, version,
            before ++ (role, String.ofList (kind.text pre other suf)) :: after⟩ true := by
  have hpatterns : redactPatterns unicode (kind.text pre credential suf) =
      redactPatterns unicode (kind.text pre other suf) := by
    rcases hhidden with rfl | ⟨hone, htwo⟩
    · rfl
    · exact redactPatterns_hidden h hother hone htwo
  exact ⟨fun options => redact_of_patterns options hpatterns,
    fun settings typeName => safeError_of_patterns settings typeName hpatterns,
    fun gateway hstrict name version role before after =>
      prepare_of_patterns hstrict name version role before after hpatterns⟩

/-- Letters, digits and the underscore as the characters of words. -/
def plainClasses : UnicodeClasses where
  isWord c := c.isAlphanum || c == '_'
  isDigit := Char.isDigit
  isWord_ascii := fun c _ => rfl
  isWord_space := by
    intro c hspace
    by_contra hword
    have hvalue := isValueChar_of_isKeyChar (c := c) (by
      simp only [isKeyChar, Bool.or_eq_true]
      simp only [Bool.or_eq_false_iff, not_and_or, Bool.not_eq_false] at hword
      exact hword.elim (fun h => .inl (.inl (.inl h))) fun h => .inl (.inl (.inr h)))
    rw [isSpace_of_isValueChar hvalue] at hspace
    contradiction

/-- A text without the first letter of the header has none. -/
theorem noHeader_of_lacks {text : List Char} (h : lacks 'a' text = true) (suf : List Char) :
    NoHeader text suf := by
  intro t hne ht
  obtain ⟨c, t, rfl⟩ := List.exists_cons_of_ne_nil hne
  exact findValue_cons (letter_of_lacks h (ht.subset List.mem_cons_self)) (t ++ suf)

/-- A text without the first letters of keys has none. -/
theorem noKey_of_lacks {text : List Char} (ha : lacks 'a' text = true)
    (hletter : lacks 't' text = true) (hs : lacks 's' text = true) : NoKey text := by
  intro t hne ht
  obtain ⟨c, t, rfl⟩ := List.exists_cons_of_ne_nil hne
  have hc : c ∈ text := ht.subset List.mem_cons_self
  exact findKey_cons (letter_of_lacks ha hc) (letter_of_lacks hletter hc) (letter_of_lacks hs hc)
    (t ++ ['@'])

/-- The value of a bearer header, and a password. -/
theorem conceals_of_hidden_both :
    (∀ options, redact plainClasses options (CredentialKind.text
        (.authorization "Bearer".toList) "curl -H '".toList "one".toList "'".toList) =
      redact plainClasses options (CredentialKind.text
        (.authorization "Bearer".toList) "curl -H '".toList "two".toList "'".toList)) ∧
    ∀ options, redact plainClasses options (CredentialKind.text
        (.databasePassword "+psycopg".toList "me".toList) [] "one".toList "host".toList) =
      redact plainClasses options (CredentialKind.text
        (.databasePassword "+psycopg".toList "me".toList) [] "p2".toList "host".toList) := by
  have hfits : ∀ {cls : Char → Bool} {text : List Char}, text ≠ [] → text.all cls = true →
      Fits cls text := fun hne hall => ⟨hne, List.all_eq_true.mp hall⟩
  constructor
  · have hclosed : Closed "curl -H '".toList := by
      unfold Closed
      decide +kernel
    have hvalue : ∀ value, value ≠ [] → value.all isValueChar = true →
        IsCredential plainClasses (.authorization "Bearer".toList) value ∧
          IsHidden (.authorization "Bearer".toList) "curl -H '".toList "'".toList value :=
      fun value hne hall => ⟨⟨by decide, hne⟩, by decide, hclosed, hfits hne hall⟩
    obtain ⟨hone, honeHidden⟩ := hvalue "one".toList (by decide) (by decide)
    obtain ⟨htwo, htwoHidden⟩ := hvalue "two".toList (by decide) (by decide)
    exact (conceals_of_hidden hone htwo (.inr ⟨honeHidden, htwoHidden⟩)).1
  · have hdriver : IsDriver plainClasses "+psycopg".toList :=
      .inr ⟨"psycopg".toList, rfl, hfits (by decide) (by decide)⟩
    have huser : Fits isUserChar "me".toList := hfits (by decide) (by decide)
    have hopen : ¬Opens findValue ([] ++ addressText "+psycopg".toList "me".toList)
        passwordProbe := by
      decide +kernel
    have hname : NotAuthorization "+psycopg".toList := by
      intro v hv hread
      have hlength : 0 + 13 = v.length := length_readWord hread
      have hle : v.length ≤ 8 := hv.length_le
      omega
    have hinto : ¬KeyInto [] := by
      rintro ⟨v, hv, hhere⟩
      rw [List.suffix_nil.mp hv] at hhere
      exact absurd hhere (by decide)
    have hpassword : ∀ password, password ≠ [] → password.all isPasswordChar = true →
        lacks 'a' password = true → lacks 't' password = true → lacks 's' password = true →
          IsCredential plainClasses (.databasePassword "+psycopg".toList "me".toList) password ∧
            IsHidden (.databasePassword "+psycopg".toList "me".toList) [] "host".toList
              password := by
      intro password hne hall ha hletter hs
      refine ⟨⟨hdriver, huser, hne⟩, ?_⟩
      rw [IsHidden, IsHiddenPassword, if_neg hopen]
      exact ⟨hname, lt_irrefl 0, hinto, hfits hne hall,
        noHeader_of_lacks ha _, noKey_of_lacks ha hletter hs⟩
    obtain ⟨hone, honeHidden⟩ := hpassword "one".toList (by decide) (by decide)
      (by decide) (by decide) (by decide)
    obtain ⟨htwo, htwoHidden⟩ := hpassword "p2".toList (by decide) (by decide)
      (by decide) (by decide) (by decide)
    exact (conceals_of_hidden hone htwo (.inr ⟨honeHidden, htwoHidden⟩)).1

/-- The value of a header with another scheme is not concealed: the scheme is taken for it. -/
theorem conceals_fails :
    IsCredential plainClasses (.authorization "Basic".toList) "dTox".toList ∧
      IsCredential plainClasses (.authorization "Basic".toList) "dTo5".toList ∧
      redact plainClasses {}
          (CredentialKind.text (.authorization "Basic".toList) [] "dTox".toList []) ≠
        redact plainClasses {}
          (CredentialKind.text (.authorization "Basic".toList) [] "dTo5".toList []) := by
  refine ⟨⟨by decide, by decide⟩, ⟨by decide, by decide⟩, ?_⟩
  decide +kernel

end RedactionService

end StoryForge
