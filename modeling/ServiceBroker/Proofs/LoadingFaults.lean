/-
What comes of every secret that a cluster may answer with, whichever bytes it holds under whichever keys. The result is
one of four (`Secret.Loads`): a secret without data or without a URL is refused for that, whatever else is wrong with
it; of the values that are no texts the first one is named, in the order in which the keys are read; and if nothing is
wrong, all that is read are texts without blanks around them. No other key counts.
-/
import ServiceBroker.Proofs.Loading

namespace ServiceBroker

/-! ## The question -/

namespace Http

/-- Of a bare path that is accepted the fragment is left out, and nothing else. -/
theorem pathAndQuery_of_slash {cs text : List Char} (h : pathAndQuery ('/' :: cs) = .ok text) :
    text = ('/' :: cs).takeWhile (· != '#') := by
  have hslash : ('/' :: cs).takeWhile (· != '#') = '/' :: cs.takeWhile (· != '#') := by simp
  have hpath : ¬ (('/' :: cs.takeWhile (· != '#')).takeWhile (· != '?')).isEmpty := by simp
  unfold pathAndQuery at h
  dsimp only at h
  split at h
  · cases h
  · rw [← Except.ok.inj h, hslash, if_neg hpath, List.takeWhile_append_dropWhile]

theorem target_of_slash {text t : String} {cs : List Char} (htext : text.toList = '/' :: cs)
    (h : target text = .ok t) : t = String.ofList (text.toList.takeWhile (· != '#')) := by
  unfold target at h
  rw [htext] at h ⊢
  dsimp only at h
  split at h
  · cases h
  · obtain ⟨path, hpath, h⟩ := bind_eq_ok_iff.1 h
    rw [← Except.ok.inj h, pathAndQuery_of_slash hpath]

end Http

namespace Kubernetes

variable {s s' : Secret} {«namespace» name key : String}

/-- The path of a secret is asked for as it is written, up to a sharp sign. -/
theorem Secret.eq_of_target_eq_ok {t : String} (h : target «namespace» name = .ok t) :
    t = String.ofList ((path «namespace» name).toList.takeWhile (· != '#')) := by
  unfold target at h
  split at h
  · cases h
  · have hfront : "/api/v1/namespaces/".toList = '/' :: "api/v1/namespaces/".toList := by decide
    have hslash : ∃ cs, (path «namespace» name).toList = '/' :: cs := by
      unfold path
      rw [String.toList_append, String.toList_append, String.toList_append, hfront]
      exact ⟨_, rfl⟩
    obtain ⟨cs, hcs⟩ := hslash
    exact Http.target_of_slash hcs (mapError_eq_ok_iff.1 h)

/-! ## What a secret says -/

namespace Secret

/-- The keys that are read, in this order. -/
def keys : List String := ["url", "username", "password", "token"]

/-- The bytes under a key are a text, if there are any. -/
def Readable (s : Secret) (key : String) : Prop :=
  ∀ bytes, s.bytes? key = some bytes → ∃ text, bytes = Utf8.encode text

/-- Two secrets with the same bytes under every key that is read. -/
structure Agree (s s' : Secret) : Prop where
  data : s.data = none ↔ s'.data = none
  same : ∀ key ∈ keys, s.bytes? key = s'.bytes? key

/-- What comes of a secret. -/
inductive Loads (s : Secret) («namespace» name : String) : Except ConfigFault Config → Prop
  | noData (hdata : s.data = none) : s.Loads «namespace» name (.error (.secretWithoutData «namespace» name))
  | noUrl (hdata : s.data ≠ none) (hurl : s.bytes? "url" = none) :
    s.Loads «namespace» name (.error (.secretWithoutKey «namespace» name "url"))
  | notText {before after : List String} {key : String} {bytes : List UInt8} {fault : Utf8.Fault}
    (hurl : s.bytes? "url" ≠ none) (hkeys : keys = before ++ key :: after) (hbefore : ∀ k ∈ before, s.Readable k)
    (hbytes : s.bytes? key = some bytes) (hnot : ∀ text, bytes ≠ Utf8.encode text)
    (hfault : Utf8.decode bytes = .error fault) :
    s.Loads «namespace» name (.error (.secretNotText key name fault))
  | loaded {url : String} {username password token : Option String} {auth : Option Auth}
    (hurl : s.Says "url" (some url)) (husername : s.Says "username" username) (hpassword : s.Says "password" password)
    (htoken : s.Says "token" token) (hauth : Auth.ChosenBy username password token auth) :
    s.Loads «namespace» name (.ok { Config.ofUrl url with name := «namespace» ++ "/" ++ name, auth := auth })

/-! ## One key -/

theorem text?_eq_error_iff {fault : ConfigFault} :
    text? (s.data.getD []) name key = .error fault ↔
      ∃ bytes f, s.bytes? key = some bytes ∧ Utf8.decode bytes = .error f ∧ fault = .secretNotText key name f := by
  constructor
  · intro h
    unfold text? at h
    unfold bytes?
    generalize (s.data.getD []).lookup key = bytes? at h
    cases bytes? with
    | none => cases h
    | some bytes =>
      dsimp only at h
      split at h
      · cases h
      · next f hf => exact ⟨bytes, f, rfl, hf, (Except.error.inj h).symm⟩
  · rintro ⟨bytes, f, hbytes, hf, rfl⟩
    unfold bytes? at hbytes
    unfold text?
    rw [hbytes]
    dsimp only
    rw [hf]

theorem readable_iff (name : String) : s.Readable key ↔ ∃ value, text? (s.data.getD []) name key = .ok value := by
  constructor
  · intro h
    cases hread : text? (s.data.getD []) name key with
    | ok value => exact ⟨value, rfl⟩
    | error fault =>
      obtain ⟨bytes, f, hbytes, hf, -⟩ := text?_eq_error_iff.1 hread
      obtain ⟨text, rfl⟩ := h bytes hbytes
      rw [Utf8.decode_encode] at hf
      cases hf
  · rintro ⟨value, hvalue⟩ bytes hbytes
    have hsaid := text?_eq_ok_iff.1 hvalue
    unfold Says at hsaid
    rw [hbytes] at hsaid
    cases hsaid with
    | some h => exact ⟨h.choose, h.choose_spec.1⟩

/-! ## All keys -/

theorem Says.readable {value : Option String} (h : s.Says key value) : s.Readable key :=
  (readable_iff key).2 ⟨value, text?_eq_ok_iff.2 h⟩

theorem says_none_iff : s.Says key none ↔ s.bytes? key = none := by
  unfold Says
  constructor
  · intro h
    generalize s.bytes? key = bytes? at h
    cases h
    rfl
  · intro h
    rw [h]
    exact .none

/-- Where there is a URL, whatever goes wrong is the first of the four reads to fail. -/
theorem map_config (hurl : s.bytes? "url" ≠ none) :
    (s.config «namespace» name).map (fun _ => ()) =
      keys.forM fun key => (text? (s.data.getD []) name key).map fun _ => () := by
  obtain ⟨data, rfl⟩ := exists_data hurl
  have hnone : text? data name "url" ≠ .ok none := fun h => hurl (says_none_iff.1 (text?_eq_ok_iff.1 h))
  unfold Secret.config keys
  dsimp only [Option.getD_some]
  rw [List.forM_eq_forM]
  simp only [List.forM_cons, List.forM_nil]
  -- a read that fails ends both sides in the same way, so they are taken apart read by read
  cases hread : text? data name "url" with
  | error => rfl
  | ok url? =>
    cases url? with
    | none => exact absurd hread hnone
    | some url =>
      cases text? data name "username" with
      | error => rfl
      | ok =>
        cases text? data name "password" with
        | error => rfl
        | ok => cases text? data name "token" <;> rfl

theorem config_eq_error_iff (hurl : s.bytes? "url" ≠ none) {fault : ConfigFault} :
    s.config «namespace» name = .error fault ↔ ∃ before key after, keys = before ++ key :: after ∧
      (∀ k ∈ before, s.Readable k) ∧ text? (s.data.getD []) name key = .error fault := by
  rw [← map_eq_error_iff (f := fun _ => ()), map_config hurl, forM_eq_error_iff]
  simp only [map_eq_error_iff, map_eq_ok_iff, and_true, ← readable_iff name]

theorem config_of_noData (hdata : s.data = none) :
    s.config «namespace» name = .error (.secretWithoutData «namespace» name) := by
  obtain ⟨data?⟩ := s
  obtain rfl := hdata
  rfl

theorem config_of_noUrl (hdata : s.data ≠ none) (hurl : s.bytes? "url" = none) :
    s.config «namespace» name = .error (.secretWithoutKey «namespace» name "url") := by
  obtain ⟨_ | data⟩ := s
  · exact absurd rfl hdata
  · have hread : text? data name "url" = .ok none := (text?_eq_ok_iff (s := ⟨some data⟩)).2 (says_none_iff.2 hurl)
    unfold Secret.config
    dsimp only
    rw [hread]
    rfl

/-- Every secret comes to one thing, and that is what is read. -/
theorem loads_iff {result : Except ConfigFault Config} :
    s.Loads «namespace» name result ↔ s.config «namespace» name = result := by
  constructor
  · intro h
    cases h with
    | noData hdata => exact config_of_noData hdata
    | noUrl hdata hurl => exact config_of_noUrl hdata hurl
    | notText hurl hkeys hbefore hbytes _ hfault =>
      exact (config_eq_error_iff hurl).2
        ⟨_, _, _, hkeys, hbefore, text?_eq_error_iff.2 ⟨_, _, hbytes, hfault, rfl⟩⟩
    | loaded hurl husername hpassword htoken hauth =>
      rw [hauth.eq]
      exact config_eq_ok_iff_exists.2 ⟨_, _, _, _, hurl, husername, hpassword, htoken, rfl⟩
  · -- in the order in which the secret is looked at
    rintro rfl
    by_cases hdata : s.data = none
    · rw [config_of_noData hdata]
      exact .noData hdata
    by_cases hurl : s.bytes? "url" = none
    · rw [config_of_noUrl hdata hurl]
      exact .noUrl hdata hurl
    cases hc : s.config «namespace» name with
    | error fault =>
      obtain ⟨before, key, after, hkeys, hbefore, hread⟩ := (config_eq_error_iff hurl).1 hc
      obtain ⟨bytes, f, hbytes, hfault, rfl⟩ := text?_eq_error_iff.1 hread
      refine .notText hurl hkeys hbefore hbytes ?_ hfault
      rintro text rfl
      rw [Utf8.decode_encode] at hfault
      cases hfault
    | ok config =>
      obtain ⟨url, username, password, token, hurl, husername, hpassword, htoken, rfl⟩ := config_eq_ok_iff_exists.1 hc
      exact .loaded hurl husername hpassword htoken (Auth.chosenBy_choose _ _ _)

/-- A configuration is loaded if there is a URL and nothing that is read is other than text. -/
theorem exists_config_iff : (∃ config, s.config «namespace» name = .ok config) ↔
    s.data ≠ none ∧ s.bytes? "url" ≠ none ∧ ∀ key ∈ keys, s.Readable key := by
  constructor
  · rintro ⟨config, hc⟩
    obtain ⟨url, username, password, token, hurl, husername, hpassword, htoken, -⟩ := config_eq_ok_iff_exists.1 hc
    refine ⟨?_, hurl.ne_none, ?_⟩
    · obtain ⟨data, rfl⟩ := exists_data hurl.ne_none
      exact nofun
    · intro key hkey
      simp only [keys, List.mem_cons, List.not_mem_nil, or_false] at hkey
      rcases hkey with rfl | rfl | rfl | rfl
      · exact hurl.readable
      · exact husername.readable
      · exact hpassword.readable
      · exact htoken.readable
  · rintro ⟨-, hurl, hkeys⟩
    cases hc : s.config «namespace» name with
    | ok config => exact ⟨config, rfl⟩
    | error fault =>
      obtain ⟨before, key, after, hsplit, -, hread⟩ := (config_eq_error_iff hurl).1 hc
      have hkey : key ∈ keys := by
        rw [hsplit]
        exact List.mem_append_right _ List.mem_cons_self
      obtain ⟨value, hvalue⟩ := (readable_iff name).1 (hkeys key hkey)
      cases hvalue.symm.trans hread

/-- What stands under other keys does not count. -/
theorem Agree.loads (h : s.Agree s') {result : Except ConfigFault Config} (hs : s.Loads «namespace» name result) :
    s'.Loads «namespace» name result := by
  have hsaid : ∀ key ∈ keys, ∀ value, s.Says key value → s'.Says key value := by
    intro key hkey value hsaid
    unfold Says at hsaid ⊢
    rwa [← h.same key hkey]
  have hread : ∀ key ∈ keys, s.Readable key → s'.Readable key := by
    intro key hkey hread bytes hbytes
    exact hread bytes ((h.same key hkey).trans hbytes)
  have hurl : s.bytes? "url" = s'.bytes? "url" := h.same _ (by simp [keys])
  cases hs with
  | noData hdata => exact .noData (h.data.1 hdata)
  | noUrl hdata hnone => exact .noUrl (fun hdata' => hdata (h.data.2 hdata')) (hurl.symm.trans hnone)
  | notText hsome hkeys hbefore hbytes hnot hfault =>
    have hmem : ∀ k, k ∈ keys ↔ _ := fun k => by rw [hkeys]
    refine .notText (hurl ▸ hsome) hkeys ?_ ((h.same _ ?_).symm.trans hbytes) hnot hfault
    · intro k hk
      exact hread k ((hmem k).2 (List.mem_append_left _ hk)) (hbefore k hk)
    · exact (hmem _).2 (List.mem_append_right _ List.mem_cons_self)
  | loaded hurl husername hpassword htoken hauth =>
    exact .loaded (hsaid _ (by simp [keys]) _ hurl) (hsaid _ (by simp [keys]) _ husername)
      (hsaid _ (by simp [keys]) _ hpassword) (hsaid _ (by simp [keys]) _ htoken) hauth

end Secret

/-! ## Loading -/

variable {d : Delivery}

/-- Whether a question is asked does not depend on the answer. -/
theorem asked_iff : (loadConfig «namespace» name d).2 ≠ [] ↔ ∃ t, Secret.target «namespace» name = .ok t := by
  unfold loadConfig
  cases Secret.target «namespace» name with
  | error e => simp
  | ok t => simp

/-- A secret that was asked for and that the API answered with decides alone. -/
theorem loadConfig_eq (hasked : (loadConfig «namespace» name d).2 ≠ []) (hd : d.secret = .ok s) :
    loadConfig «namespace» name d = ((s.config «namespace» name).mapError .config,
      [⟨.get, String.ofList ((Secret.path «namespace» name).toList.takeWhile (· != '#'))⟩]) := by
  obtain ⟨t, ht⟩ := asked_iff.1 hasked
  unfold loadConfig
  rw [ht, hd, Secret.eq_of_target_eq_ok ht]

/-- Whatever secret the API answers with. It makes a configuration exactly if it has data and a URL and the values
under the four keys are texts; which configuration, or which fault, is `Secret.Loads`. Other keys do not count, and one
question was asked, to get what is at the path of the secret up to a sharp sign. -/
theorem loadConfig_answered (hasked : (loadConfig «namespace» name d).2 ≠ []) (hd : d.secret = .ok s) :
    ((∃ config, (loadConfig «namespace» name d).1 = .ok config) ↔
      s.data ≠ none ∧ s.bytes? "url" ≠ none ∧ ∀ key ∈ Secret.keys, s.Readable key) ∧
    (∀ config, (loadConfig «namespace» name d).1 = .ok config ↔ s.Loads «namespace» name (.ok config)) ∧
    (∀ e, (loadConfig «namespace» name d).1 = .error e ↔
      ∃ fault, e = .config fault ∧ s.Loads «namespace» name (.error fault)) ∧
    (∀ s' d', d'.secret = .ok s' → s.Agree s' →
      (loadConfig «namespace» name d').1 = (loadConfig «namespace» name d).1) ∧
    (loadConfig «namespace» name d).2 =
      [⟨.get, String.ofList ((Secret.path «namespace» name).toList.takeWhile (· != '#'))⟩] := by
  have hload := loadConfig_eq hasked hd
  refine ⟨?_, ?_, ?_, ?_, ?_⟩
  · rw [hload, ← Secret.exists_config_iff]
    exact exists_congr fun config => mapError_eq_ok_iff
  · intro config
    rw [hload, Secret.loads_iff]
    exact mapError_eq_ok_iff
  · intro e
    rw [hload]
    simp only [mapError_eq_error_iff, Secret.loads_iff]
  · intro s' d' hd' hagree
    have hasked' := asked_iff (d := d').2 (asked_iff.1 hasked)
    rw [hload, loadConfig_eq hasked' hd', Secret.loads_iff.1 (hagree.loads (Secret.loads_iff.2 rfl))]
  · rw [hload]

/-- A name with a password that is no text, a token that is one, and bytes under another key. -/
def Secret.corrupt : Secret :=
  ⟨some [("x", [254]), ("url", Utf8.encode "http://b"), ("username", Utf8.encode "u"), ("token", Utf8.encode "t"),
    ("password", [255])]⟩

/-- The API's reply with this secret. -/
def Delivery.corrupt : Delivery :=
  .reply 200 (Utf8.encode ("\x7b\"data\":\x7b\"password\":\"/w==\",\"token\":\"dA==\"," ++
    "\"username\":\"dQ==\",\"url\":\"aHR0cDovL2I=\",\"x\":\"/g==\"\x7d\x7d"))

theorem Secret.bytes_ne_encode {bytes : List UInt8} (h : (Utf8.decode bytes).toOption = none) (text : String) :
    bytes ≠ Utf8.encode text := by
  rintro rfl
  rw [Utf8.decode_encode] at h
  cases h

/-- The password is at fault, though the token would have done. -/
theorem loadConfig_answered_corrupt :
    (loadConfig "n" "s" .corrupt).2 ≠ [] ∧ Delivery.corrupt.secret = .ok .corrupt ∧
    (loadConfig "n" "s" .corrupt).1 = .error (.config (.secretNotText "password" "s" ⟨0, some 1⟩)) ∧
    (loadConfig "n" "s" .corrupt).2 = [⟨.get, "/api/v1/namespaces/n/secrets/s"⟩] := by
  have hasked : (loadConfig "n" "s" .corrupt).2 ≠ [] := by decide +kernel
  have hd : Delivery.corrupt.secret = .ok Secret.corrupt := toOption_eq_some_iff.1 (by decide +kernel)
  obtain ⟨-, -, herror, -, hsent⟩ := loadConfig_answered hasked hd
  refine ⟨hasked, hd, (herror _).2 ⟨_, rfl, ?_⟩, hsent.trans (by decide)⟩
  have hkeys : Secret.keys = ["url", "username"] ++ "password" :: ["token"] := rfl
  refine .notText (by decide) hkeys ?_ rfl (Secret.bytes_ne_encode (by decide +kernel)) rfl
  simp only [List.mem_cons, List.not_mem_nil, or_false]
  rintro k (rfl | rfl)
  · exact fun bytes hbytes => ⟨"http://b", (Option.some.inj hbytes).symm⟩
  · exact fun bytes hbytes => ⟨"u", (Option.some.inj hbytes).symm⟩

/-- A token that is no text, and no URL. -/
def Secret.unaddressed : Secret :=
  ⟨some [("token", [255])]⟩

/-- The API's reply with this secret. -/
def Delivery.unaddressed : Delivery :=
  .reply 200 (Utf8.encode "\x7b\"data\":\x7b\"token\":\"/w==\"\x7d\x7d")

/-- The token of a secret without a URL is not looked at; and of a name with a sharp sign only the front is asked
for. -/
theorem loadConfig_unaddressed :
    Delivery.unaddressed.secret = .ok .unaddressed ∧ ¬ Secret.unaddressed.Readable "token" ∧
    (loadConfig "n" "s" .unaddressed).1 = .error (.config (.secretWithoutKey "n" "s" "url")) ∧
    (loadConfig "n" "q#x" .unaddressed).2 = [⟨.get, "/api/v1/namespaces/n/secrets/q"⟩] := by
  have hd : Delivery.unaddressed.secret = .ok .unaddressed := toOption_eq_some_iff.1 (by decide +kernel)
  refine ⟨hd, ?_, ?_, ?_⟩
  · intro h
    obtain ⟨text, htext⟩ := h [255] rfl
    exact Secret.bytes_ne_encode (by decide +kernel) text htext
  · rw [loadConfig_eq (by decide +kernel) hd, Secret.config_of_noUrl (s := .unaddressed) nofun rfl]
    rfl
  · decide +kernel

end Kubernetes

end ServiceBroker
