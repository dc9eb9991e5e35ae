/-
Two places that hold the same configuration. A secret of a cluster keeps as bytes what the environment keeps in
variables. If both say the same, then either both make a configuration or neither does, and the two configurations are
the same but for the name (`loadConfig_of_mirrors`). What is read is first compared key by key; from there on, the texts
alone decide.
-/
import ServiceBroker.Kubernetes.Secret
import ServiceBroker.Proofs.Except
import ServiceBroker.Proofs.Text.Utf8
import Mathlib.Data.List.TakeWhile

namespace ServiceBroker

/-! ## Texts without blanks around them -/

/-- A text is the middle of another one, between blanks, and does not itself begin or end with a blank. -/
structure Trims (text middle : String) : Prop where
  between : ∃ front back : List Char, text.toList = front ++ middle.toList ++ back ∧
    (∀ c ∈ front, isBlank c = true) ∧ ∀ c ∈ back, isBlank c = true
  first : ∀ c ∈ middle.toList.head?, isBlank c = false
  last : ∀ c ∈ middle.toList.getLast?, isBlank c = false

theorem dropWhile_isBlank {front rest : List Char} (hfront : ∀ c ∈ front, isBlank c = true)
    (hrest : ∀ c ∈ rest.head?, isBlank c = false) : (front ++ rest).dropWhile isBlank = rest := by
  rw [List.dropWhile_append_of_pos hfront]
  cases rest with
  | nil => rfl
  | cons c rest => rw [List.dropWhile_cons_of_neg (by simp [hrest c rfl])]

theorem Trims.eq {text middle : String} (h : Trims text middle) : middle = trimBlank text := by
  obtain ⟨⟨front, back, htext, hfront, hback⟩, hfirst, hlast⟩ := h
  apply String.toList_inj.1
  unfold trimBlank
  rw [String.toList_ofList, htext]
  by_cases hm : middle.toList = []
  · -- nothing is left between blanks, and so the back is cut off with the front
    have hall : ∀ c ∈ front ++ back, isBlank c = true := by
      intro c hc
      rcases List.mem_append.1 hc with hc | hc
      · exact hfront c hc
      · exact hback c hc
    rw [hm, List.append_nil, List.dropWhile_eq_nil_iff.2 hall]
    rfl
  · have hhead : ∀ c ∈ (middle.toList ++ back).head?, isBlank c = false := by
      rw [List.head?_append_of_ne_nil _ hm]
      exact hfirst
    have hend : ∀ c ∈ middle.toList.reverse.head?, isBlank c = false := by
      rw [List.head?_reverse]
      exact hlast
    have hback' : ∀ c ∈ back.reverse, isBlank c = true := fun c hc => hback c (List.mem_reverse.1 hc)
    rw [List.append_assoc, dropWhile_isBlank hfront hhead, List.reverse_append, dropWhile_isBlank hback' hend,
      List.reverse_reverse]

theorem isBlank_of_mem_head?_dropWhile {l : List Char} : ∀ c ∈ (l.dropWhile isBlank).head?, isBlank c = false := by
  intro c hc
  have h := List.head?_dropWhile_not isBlank l
  rw [Option.mem_def.1 hc] at h
  exact h

theorem trims_trimBlank (text : String) : Trims text (trimBlank text) := by
  -- the front is taken away first, and the back of what is left then
  have hsplit := List.takeWhile_append_dropWhile (p := isBlank) (l := text.toList)
  generalize hrest : text.toList.dropWhile isBlank = rest at hsplit
  have hsplit' := congrArg List.reverse (List.takeWhile_append_dropWhile (p := isBlank) (l := rest.reverse))
  rw [List.reverse_append, List.reverse_reverse] at hsplit'
  have hmiddle : (trimBlank text).toList = (rest.reverse.dropWhile isBlank).reverse := by
    unfold trimBlank
    rw [String.toList_ofList, hrest]
  constructor
  · refine ⟨text.toList.takeWhile isBlank, (rest.reverse.takeWhile isBlank).reverse, ?_, ?_, ?_⟩
    · rw [hmiddle, List.append_assoc, hsplit', hsplit]
    · intro c hc
      exact List.mem_takeWhile_imp hc
    · intro c hc
      exact List.mem_takeWhile_imp (List.mem_reverse.1 hc)
  · intro c hc
    rw [hmiddle] at hc
    apply isBlank_of_mem_head?_dropWhile (l := text.toList)
    rw [hrest, ← hsplit', List.head?_append, Option.mem_def.1 hc]
    rfl
  · rw [hmiddle, List.getLast?_reverse]
    exact isBlank_of_mem_head?_dropWhile

/-- Every text has one such middle. -/
theorem trims_iff {text middle : String} : Trims text middle ↔ middle = trimBlank text := by
  constructor
  · exact Trims.eq
  · rintro rfl
    exact trims_trimBlank text

/-! ## Credentials -/

/-- The credentials that a user name, a password and a token make, as far as they are present: the name with the
password if both are, whatever they hold; otherwise the token if it is; otherwise none. -/
structure Auth.ChosenBy (username password token : Option String) (auth : Option Auth) : Prop where
  basic : ∀ u p, auth = some (.basic u p) ↔ username = some u ∧ password = some p
  bearer : ∀ t, auth = some (.bearer t) ↔ ¬ (username.isSome ∧ password.isSome) ∧ token = some t
  anonymous : auth = none ↔ ¬ (username.isSome ∧ password.isSome) ∧ token = none

theorem Auth.chosenBy_choose (username password token : Option String) :
    ChosenBy username password token (choose username password token) := by
  rcases username with _ | username <;> rcases password with _ | password <;> rcases token with _ | token <;>
    constructor <;> simp [choose]

/-- What is present decides which credentials are chosen. -/
theorem Auth.ChosenBy.eq {username password token : Option String} {auth : Option Auth}
    (h : ChosenBy username password token auth) : auth = choose username password token := by
  cases hchoice : choose username password token with
  | none => exact h.anonymous.2 ((chosenBy_choose _ _ _).anonymous.1 hchoice)
  | some a =>
    cases a with
    | basic u p => exact (h.basic u p).2 (((chosenBy_choose _ _ _).basic u p).1 hchoice)
    | bearer t => exact (h.bearer t).2 (((chosenBy_choose _ _ _).bearer t).1 hchoice)

/-! ## What a secret says -/

namespace Kubernetes

variable {s : Secret} {get? : String → Option String} {«namespace» name key : String}

namespace Secret

/-- The bytes under a key. -/
def bytes? (s : Secret) (key : String) : Option (List UInt8) :=
  (s.data.getD []).lookup key

/-- The bytes under a key are a text, and this is it without the blanks around it; or there are none. -/
def Says (s : Secret) (key : String) (value : Option String) : Prop :=
  Option.Rel (fun bytes value => ∃ text, bytes = Utf8.encode text ∧ Trims text value) (s.bytes? key) value

theorem text?_eq_ok_iff {value : Option String} :
    text? (s.data.getD []) name key = .ok value ↔ s.Says key value := by
  unfold text? Says bytes?
  generalize (s.data.getD []).lookup key = bytes?
  constructor
  · intro h
    cases bytes? with
    | none =>
      obtain rfl := Except.ok.inj h
      exact .none
    | some bytes =>
      dsimp only at h
      split at h
      · next text htext =>
        obtain rfl := Except.ok.inj h
        exact .some ⟨text, Utf8.decode_eq_ok_iff.1 htext, trims_trimBlank text⟩
      · cases h
  · intro h
    cases h with
    | none => rfl
    | some h =>
      obtain ⟨text, rfl, htrims⟩ := h
      dsimp only
      rw [Utf8.decode_encode, trims_iff.1 htrims]

theorem Says.unique {value value' : Option String} (h : s.Says key value) (h' : s.Says key value') :
    value = value' := by
  have hread : text? (s.data.getD []) key key = .ok value := text?_eq_ok_iff.2 h
  have hread' : text? (s.data.getD []) key key = .ok value' := text?_eq_ok_iff.2 h'
  exact Except.ok.inj (hread.symm.trans hread')

theorem exists_data (hurl : s.bytes? "url" ≠ none) : ∃ data, s = ⟨some data⟩ := by
  obtain ⟨_ | data⟩ := s
  · exact absurd rfl hurl
  · exact ⟨data, rfl⟩

theorem Says.ne_none {value : String} (h : s.Says key (some value)) : s.bytes? key ≠ none := by
  intro hnone
  unfold Says at h
  rw [hnone] at h
  cases h

/-- A configuration is made of what is under the four keys. -/
theorem config_eq_ok_iff_exists {config : Config} :
    s.config «namespace» name = .ok config ↔ ∃ url username password token,
      s.Says "url" (some url) ∧ s.Says "username" username ∧ s.Says "password" password ∧ s.Says "token" token ∧
      config = { Config.ofUrl url with
        name := «namespace» ++ "/" ++ name, auth := Auth.choose username password token } := by
  constructor
  · intro h
    obtain ⟨_ | data⟩ := s
    · cases h
    · unfold Secret.config at h
      obtain ⟨url?, hurl, h⟩ := bind_eq_ok_iff.1 h
      cases url? with
      | none => cases h
      | some url =>
        obtain ⟨username, husername, h⟩ := bind_eq_ok_iff.1 h
        obtain ⟨password, hpassword, h⟩ := bind_eq_ok_iff.1 h
        obtain ⟨token, htoken, h⟩ := bind_eq_ok_iff.1 h
        exact ⟨url, username, password, token, text?_eq_ok_iff.1 hurl, text?_eq_ok_iff.1 husername,
          text?_eq_ok_iff.1 hpassword, text?_eq_ok_iff.1 htoken, (Except.ok.inj h).symm⟩
  · rintro ⟨url, username, password, token, hurl, husername, hpassword, htoken, rfl⟩
    obtain ⟨data, rfl⟩ := exists_data hurl.ne_none
    have hread : ∀ key value, Says ⟨some data⟩ key value → text? data name key = .ok value := by
      intro key value
      exact (text?_eq_ok_iff (s := ⟨some data⟩)).2
    unfold Secret.config
    dsimp only
    rw [hread _ _ hurl, hread _ _ husername, hread _ _ hpassword, hread _ _ htoken]
    rfl

end Secret

/-! ## Secrets that mirror variables -/

/-- The keys of a secret that matter, each with the variable that stands for it. -/
def Secret.variables : List (String × String) :=
  [("url", "OSB_BROKER_URL"), ("username", "OSB_USERNAME"), ("password", "OSB_PASSWORD"), ("token", "OSB_BEARER_TOKEN")]

/-- What is only set in the environment. -/
def Secret.otherVariables : List String :=
  ["OSB_API_VERSION", "OSB_ENABLE_ALPHA_FEATURES", "OSB_TIMEOUT_SECS", "OSB_HEALTH_ENDPOINT"]

/-- Variables hold the texts of a secret, without the blanks around them, under their own names, and nothing else of
what a configuration is made of. A key that is missing is a variable that is not set. -/
structure Secret.Mirrors (s : Secret) (get? : String → Option String) : Prop where
  same : ∀ p ∈ Secret.variables, Option.Rel (fun bytes value => ∃ text, bytes = Utf8.encode text ∧ Trims text value)
    ((s.data.getD []).lookup p.1) (get? p.2)
  unset : ∀ name ∈ Secret.otherVariables, get? name = none

/-- The configuration of a mirrored secret is made of the variables. -/
theorem config_eq_ok_iff (h : s.Mirrors get?) {config : Config} :
    s.config «namespace» name = .ok config ↔ ∃ url, get? "OSB_BROKER_URL" = some url ∧
      config = { Config.ofUrl url with
        name := «namespace» ++ "/" ++ name
        auth := Auth.choose (get? "OSB_USERNAME") (get? "OSB_PASSWORD") (get? "OSB_BEARER_TOKEN") } := by
  have hsaid : ∀ p ∈ Secret.variables, s.Says p.1 (get? p.2) := h.same
  have hurl := hsaid ("url", "OSB_BROKER_URL") (by simp [Secret.variables])
  have husername := hsaid ("username", "OSB_USERNAME") (by simp [Secret.variables])
  have hpassword := hsaid ("password", "OSB_PASSWORD") (by simp [Secret.variables])
  have htoken := hsaid ("token", "OSB_BEARER_TOKEN") (by simp [Secret.variables])
  dsimp only at hurl husername hpassword htoken
  rw [Secret.config_eq_ok_iff_exists]
  constructor
  · rintro ⟨url, username, password, token, hurl', husername', hpassword', htoken', rfl⟩
    rw [husername.unique husername', hpassword.unique hpassword', htoken.unique htoken']
    exact ⟨url, hurl.unique hurl', rfl⟩
  · rintro ⟨url, hsome, rfl⟩
    rw [hsome] at hurl
    exact ⟨url, _, _, _, hurl, husername, hpassword, htoken, rfl⟩

/-- So is the configuration of the environment. -/
theorem ofEnvironment_eq_ok_iff (h : s.Mirrors get?) {config : Config} :
    Config.ofEnvironment (.ofVariables get?) = .ok config ↔ ∃ url, get? "OSB_BROKER_URL" = some url ∧
      config = { Config.ofUrl url with
        auth := Auth.choose (get? "OSB_USERNAME") (get? "OSB_PASSWORD") (get? "OSB_BEARER_TOKEN") } := by
  have hversion : get? "OSB_API_VERSION" = none := h.unset _ (by simp [Secret.otherVariables])
  have halpha : get? "OSB_ENABLE_ALPHA_FEATURES" = none := h.unset _ (by simp [Secret.otherVariables])
  have htimeout : get? "OSB_TIMEOUT_SECS" = none := h.unset _ (by simp [Secret.otherVariables])
  have hhealth : get? "OSB_HEALTH_ENDPOINT" = none := h.unset _ (by simp [Secret.otherVariables])
  unfold Config.ofEnvironment Environment.ofVariables
  dsimp only
  rw [hversion, halpha, htimeout, hhealth]
  cases get? "OSB_BROKER_URL" with
  | none =>
    constructor
    · intro hc
      cases hc
    · rintro ⟨url, hsome, -⟩
      cases hsome
  | some url =>
    constructor
    · intro hc
      exact ⟨url, rfl, (Except.ok.inj hc).symm⟩
    · rintro ⟨url', hsome, rfl⟩
      cases hsome
      rfl

/-! ## Both loaders -/

theorem loadConfig_eq_ok_iff {target : String} {d : Delivery} (ht : Secret.target «namespace» name = .ok target)
    (hd : d.secret = .ok s) {config : Config} :
    (loadConfig «namespace» name d).1 = .ok config ↔ s.config «namespace» name = .ok config := by
  unfold loadConfig
  rw [ht, hd]
  exact mapError_eq_ok_iff

/-- A secret that can be asked for and that the API answers with, and variables that say the same. The secret makes a
configuration exactly if the environment does. The configurations differ in the name at most, and have the credentials
that the texts ask for. -/
theorem loadConfig_of_mirrors {target : String} {d : Delivery} (ht : Secret.target «namespace» name = .ok target)
    (hd : d.secret = .ok s) (hm : s.Mirrors get?) :
    ((∃ config, (loadConfig «namespace» name d).1 = .ok config) ↔
      ∃ config, Config.ofEnvironment (.ofVariables get?) = .ok config) ∧
    ∀ loaded config, (loadConfig «namespace» name d).1 = .ok loaded →
      Config.ofEnvironment (.ofVariables get?) = .ok config →
        loaded = { config with name := loaded.name } ∧
        Auth.ChosenBy (get? "OSB_USERNAME") (get? "OSB_PASSWORD") (get? "OSB_BEARER_TOKEN") loaded.auth ∧
        Auth.ChosenBy (get? "OSB_USERNAME") (get? "OSB_PASSWORD") (get? "OSB_BEARER_TOKEN") config.auth := by
  constructor
  · constructor
    · rintro ⟨config, hc⟩
      obtain ⟨url, hurl, -⟩ := (config_eq_ok_iff hm).1 ((loadConfig_eq_ok_iff ht hd).1 hc)
      exact ⟨_, (ofEnvironment_eq_ok_iff hm).2 ⟨url, hurl, rfl⟩⟩
    · rintro ⟨config, hc⟩
      obtain ⟨url, hurl, -⟩ := (ofEnvironment_eq_ok_iff hm).1 hc
      exact ⟨_, (loadConfig_eq_ok_iff ht hd).2 ((config_eq_ok_iff hm).2 ⟨url, hurl, rfl⟩)⟩
  · intro loaded config hl hc
    obtain ⟨url, hurl, rfl⟩ := (config_eq_ok_iff hm).1 ((loadConfig_eq_ok_iff ht hd).1 hl)
    obtain ⟨url', hurl', rfl⟩ := (ofEnvironment_eq_ok_iff hm).1 hc
    obtain rfl := Option.some.inj (hurl.symm.trans hurl')
    exact ⟨rfl, Auth.chosenBy_choose _ _ _, Auth.chosenBy_choose _ _ _⟩

/-- A URL behind which a line ends, a name with an empty password, a token, and bytes that are no text. -/
def Secret.mixed : Secret :=
  ⟨some [("x", [255]), ("username", Utf8.encode "u "), ("url", Utf8.encode "http://b\n"), ("token", Utf8.encode "t"),
    ("password", [])]⟩

/-- The API's reply with this secret. -/
def Delivery.mixed : Delivery :=
  .reply 200 (Utf8.encode ("\x7b\"data\":\x7b\"password\":\"\",\"token\":\"dA==\",\"url\":\"aHR0cDovL2IK\"," ++
    "\"username\":\"dSA=\",\"x\":\"/w==\"\x7d\x7d"))

/-- What the secret says, as variables. -/
def Secret.mixedVariables : String → Option String
  | "OSB_BROKER_URL" => some "http://b"
  | "OSB_USERNAME" => some "u"
  | "OSB_PASSWORD" => some ""
  | "OSB_BEARER_TOKEN" => some "t"
  | _ => none

theorem Secret.mirrors_mixed : mixed.Mirrors mixedVariables := by
  constructor
  · intro p hp
    simp only [Secret.variables, List.mem_cons, List.not_mem_nil, or_false] at hp
    rcases hp with rfl | rfl | rfl | rfl
    · exact .some ⟨"http://b\n", rfl, trims_iff.2 (by decide)⟩
    · exact .some ⟨"u ", rfl, trims_iff.2 (by decide)⟩
    · exact .some ⟨"", rfl, trims_iff.2 (by decide)⟩
    · exact .some ⟨"t", rfl, trims_iff.2 (by decide)⟩
  · decide

/-- The empty password counts, so the token does not. -/
theorem loadConfig_of_mirrors_mixed :
    Secret.mixed.Mirrors Secret.mixedVariables ∧
    (loadConfig "n" "s" .mixed).1 =
      .ok { Config.ofUrl "http://b" with name := "n/s", auth := some (.basic "u" "") } ∧
    ∃ config, Config.ofEnvironment (.ofVariables Secret.mixedVariables) = .ok config := by
  have ht : Secret.target "n" "s" = .ok "/api/v1/namespaces/n/secrets/s" := toOption_eq_some_iff.1 (by decide +kernel)
  have hd : Delivery.mixed.secret = .ok Secret.mixed := toOption_eq_some_iff.1 (by decide +kernel)
  have hload : (loadConfig "n" "s" .mixed).1 =
      .ok { Config.ofUrl "http://b" with name := "n/s", auth := some (.basic "u" "") } :=
    toOption_eq_some_iff.1 (by decide +kernel)
  refine ⟨Secret.mirrors_mixed, hload, ?_⟩
  exact (loadConfig_of_mirrors ht hd Secret.mirrors_mixed).1.1 ⟨_, hload⟩

end Kubernetes

end ServiceBroker
