/-
The authority of a URL. An authority that was read holds no slash, no question mark and no number sign
(`plain_readAuthority`), so in the text of a URL it ends where the path, the query or the fragment begins.
-/
import Mathlib.Data.List.TakeWhile
import ServiceBroker.Http.Message
import ServiceBroker.Proofs.Except
import ServiceBroker.Proofs.Url.Percent
import ServiceBroker.Url.Parser

namespace ServiceBroker

/-- Characters that end no authority: a slash, a question mark and a number sign are not among them. -/
def Plain (cs : List Char) : Prop :=
  ∀ c ∈ cs, Http.endsAuthority c = false

namespace Plain

variable {cs cs' : List Char}

@[simp] theorem nil : Plain [] := by simp [Plain]

@[simp] theorem cons_iff {c : Char} : Plain (c :: cs) ↔ Http.endsAuthority c = false ∧ Plain cs := by
  simp [Plain]

@[simp] theorem append_iff : Plain (cs ++ cs') ↔ Plain cs ∧ Plain cs' := by
  simp only [Plain, List.mem_append]
  exact ⟨fun h => ⟨fun c hc => h c (.inl hc), fun c hc => h c (.inr hc)⟩, fun h c hc => hc.elim (h.1 c) (h.2 c)⟩

theorem mono (h : Plain cs) (hs : ∀ c ∈ cs', c ∈ cs) : Plain cs' :=
  fun c hc => h c (hs c hc)

theorem intercalate {ls : List (List Char)} (hs : Plain cs) (h : ∀ l ∈ ls, Plain l) : Plain (cs.intercalate ls) := by
  induction ls with
  | nil => simp [List.intercalate]
  | cons l ls ih =>
    have ih := ih fun l' hl' => h l' (List.mem_cons_of_mem _ hl')
    have hl := h l (List.mem_cons_self ..)
    cases ls with
    | nil => simpa [List.intercalate] using hl
    | cons l' ls =>
      rw [List.intercalate_cons_cons]
      simpa using ⟨hl, hs, ih⟩

/-- A plain text holds none of the three characters. -/
theorem ne_of_mem {c : Char} (h : Plain cs) (hc : c ∈ cs) : c ≠ '/' ∧ c ≠ '?' ∧ c ≠ '#' := by
  have h := h c hc
  simp only [Http.endsAuthority, Bool.or_eq_false_iff, beq_eq_false_iff_ne] at h
  exact ⟨h.1.1, h.1.2, h.2⟩

end Plain

/-! ## Splitting -/

section Splitting

variable {α : Type} {p : α → Bool} {cs rest : List α}

theorem takeWhile_append_of_head? (h : ∀ c ∈ rest.head?, p c = false) :
    (cs ++ rest).takeWhile p = cs.takeWhile p := by
  induction cs with
  | nil =>
    cases rest with
    | nil => rfl
    | cons c rest => simp [h c rfl]
  | cons c cs ih => rw [List.cons_append, List.takeWhile_cons, List.takeWhile_cons, ih]

theorem dropWhile_append_of_head? (h : ∀ c ∈ rest.head?, p c = false) :
    (cs ++ rest).dropWhile p = cs.dropWhile p ++ rest := by
  induction cs with
  | nil =>
    cases rest with
    | nil => rfl
    | cons c rest => simp [h c rfl]
  | cons c cs ih =>
    rw [List.cons_append, List.dropWhile_cons, List.dropWhile_cons, ih]
    split_ifs <;> rfl

theorem takeWhile_not_eq_self (h : ∀ c ∈ cs, p c = false) : cs.takeWhile (!p ·) = cs :=
  List.takeWhile_eq_self_iff.2 fun c hc => by simp [h c hc]

/-- What has a mark first behind what has none is cut there. -/
theorem takeWhile_not_append (h : ∀ c ∈ cs, p c = false) (hr : ∀ c ∈ rest.head?, p c = true) :
    (cs ++ rest).takeWhile (!p ·) = cs := by
  rw [takeWhile_append_of_head? fun c hc => by simp [hr c hc], takeWhile_not_eq_self h]

theorem dropWhile_not_append (h : ∀ c ∈ cs, p c = false) (hr : ∀ c ∈ rest.head?, p c = true) :
    (cs ++ rest).dropWhile (!p ·) = rest := by
  have hnil : cs.dropWhile (!p ·) = [] := List.dropWhile_eq_nil_iff.2 fun c hc => by simp [h c hc]
  rw [dropWhile_append_of_head? fun c hc => by simp [hr c hc], hnil, List.nil_append]

end Splitting

/-! ## Escapes -/

namespace Percent

variable {set : Set} {cs : List Char}

theorem IsEscape.plain {c : Char} (h : IsEscape c) : Http.endsAuthority c = false := by
  rcases h with rfl | ⟨n, hn, rfl⟩
  · decide
  · interval_cases n <;> decide

/-- A set that names the three characters leaves none of them. -/
theorem plain_encode (h47 : set 47 = true) (h63 : set 63 = true) (h35 : set 35 = true) (cs : List Char) :
    Plain (encode set cs) := by
  intro c hc
  rcases mem_encode hc with he | ⟨_, hs⟩
  · exact he.plain
  · simp only [Http.endsAuthority, Bool.or_eq_false_iff, beq_eq_false_iff_ne]
    refine ⟨⟨?_, ?_⟩, ?_⟩ <;> rintro rfl
    · exact absurd (h47.symm.trans hs) (by decide)
    · exact absurd (h63.symm.trans hs) (by decide)
    · exact absurd (h35.symm.trans hs) (by decide)

/-- No set brings any of them in. -/
theorem plain_encode_of_plain (h : Plain cs) : Plain (encode set cs) := by
  intro c hc
  rcases mem_encode hc with he | ⟨hc, _⟩
  · exact he.plain
  · exact h c hc

end Percent

/-! ## Hosts -/

theorem plain_toDigits {base n : Nat} (h1 : 1 < base) (h16 : base ≤ 16) : Plain (Nat.toDigits base n) := by
  have hdigit : ∀ d < 16, Http.endsAuthority (Nat.digitChar d) = false := by
    intro d hd
    interval_cases d <;> decide
  induction n using Nat.strongRecOn with
  | ind n ih =>
    rw [Nat.toDigits_eq_if h1]
    split_ifs with hn
    · simpa using hdigit n (by omega)
    · have hb : n % base < base := Nat.mod_lt _ (by omega)
      have hd : n / base < n := Nat.div_lt_self (by omega) h1
      simpa using ⟨ih (n / base) hd, hdigit (n % base) (by omega)⟩

namespace Address

theorem plain_renderIPv4 (n : Nat) : Plain (renderIPv4 n) := by
  have hdot : Http.endsAuthority '.' = false := by decide
  simp [renderIPv4, plain_toDigits, hdot]

theorem plain_renderPieces (pieces : List Nat) : Plain (renderPieces pieces) := by
  refine Plain.intercalate (by simp [Http.endsAuthority]) fun l hl => ?_
  obtain ⟨p, _, rfl⟩ := List.mem_map.1 hl
  exact plain_toDigits (by decide) (by decide)

theorem plain_renderIPv6 (pieces : List Nat) : Plain (renderIPv6 pieces) := by
  have hmarks : Http.endsAuthority ':' = false ∧ Http.endsAuthority '[' = false ∧
      Http.endsAuthority ']' = false := by decide
  unfold renderIPv6
  dsimp only
  split_ifs <;> simp [plain_renderPieces, hmarks]

end Address

namespace Punycode

theorem plain_digit {n : Nat} (h : n < 36) : Http.endsAuthority (digit n) = false := by
  interval_cases n <;> decide

theorem plain_encodeDistance (fuel k bias q : Nat) : Plain (encodeDistance fuel k bias q) := by
  induction fuel generalizing k q with
  | zero => exact .nil
  | succ fuel ih =>
    have ht : threshold k bias ≤ 26 := by
      unfold threshold
      omega
    rw [encodeDistance]
    split_ifs with hq
    · simpa using plain_digit (by omega)
    · have hd := Nat.mod_lt (q - threshold k bias) (show 0 < 36 - threshold k bias by omega)
      simpa using ⟨plain_digit (by omega), ih _ _⟩

theorem plain_encodeCode (basic n : Nat) (codes : List Nat) (e : Encoder) (h : Plain e.written) :
    Plain (encodeCode basic n codes e).written := by
  induction codes generalizing e with
  | nil => exact h
  | cons c codes ih =>
    rw [encodeCode]
    split_ifs
    · exact ih _ h
    · exact ih _ (by simpa using ⟨h, plain_encodeDistance _ _ _ _⟩)
    · exact ih _ h

theorem plain_encodeCodes (basic : Nat) (codes : List Nat) (n : Nat) (further : List Nat) (e : Encoder)
    (h : Plain e.written) : Plain (encodeCodes basic codes n further e).written := by
  induction further generalizing n e with
  | nil => exact h
  | cons m further ih =>
    rw [encodeCodes]
    exact ih _ _ (plain_encodeCode _ _ _ _ h)

/-- What Punycode takes over from a text is in the text, and what it adds are letters and digits. -/
theorem plain_encode {text : List Char} (h : Plain text) : Plain (encode text) := by
  have hbasic : Plain (text.filter (·.toNat < 128)) := h.mono fun c hc => (List.mem_filter.1 hc).1
  unfold encode
  dsimp only
  refine plain_encodeCodes _ _ _ _ _ ?_
  dsimp only
  split_ifs
  · exact .nil
  · simpa using ⟨hbasic, by decide⟩

end Punycode

namespace Domain

theorem plain_of_isSound {text : List Char} (h : isSound text = true) : Plain text := by
  intro c hc
  simp only [isSound, Bool.and_eq_true, Bool.not_eq_true', List.any_eq_false] at h
  have hf := h.1.1 c hc
  simp only [isForbidden, Bool.or_eq_true, beq_iff_eq, not_or] at hf
  simp only [Http.endsAuthority, Bool.or_eq_false_iff, beq_eq_false_iff_ne]
  tauto

theorem plain_write {text : List Char} (h : Plain text) : Plain (write text) := by
  unfold write
  split_ifs
  · exact h
  · simpa [codeMark, Http.endsAuthority] using Punycode.plain_encode h

theorem plain_toAscii {bytes : List UInt8} {name : List Char} (h : toAscii bytes = some name) : Plain name := by
  unfold toAscii at h
  simp only [Option.bind_eq_bind, Option.bind_eq_some_iff] at h
  obtain ⟨text, _, folded, _, labels, _, h⟩ := h
  split_ifs at h with hs
  simp only [Bool.and_eq_true, List.all_eq_true] at hs
  obtain rfl := Option.some.inj h
  refine Plain.intercalate (by simp [Http.endsAuthority]) fun l hl => ?_
  obtain ⟨label, hlabel, rfl⟩ := List.mem_map.1 hl
  exact plain_write (plain_of_isSound (hs.1 label hlabel))

end Domain

namespace Url

/-! ## Authorities -/

theorem plain_readBracketed {cs : List Char} {name : String} (h : readBracketed cs = .ok name) :
    Plain name.toList := by
  unfold readBracketed at h
  split at h
  · cases hr : Address.readIPv6 (cs.drop 1).dropLast with
    | none => rw [hr] at h; cases h
    | some pieces =>
      rw [hr] at h
      obtain rfl := Except.ok.inj h
      rw [String.toList_ofList]
      exact Address.plain_renderIPv6 pieces
  · cases h

theorem plain_readHost {cs : List Char} {name : String} (h : readHost cs = .ok name) : Plain name.toList := by
  unfold readHost at h
  split at h
  · exact plain_readBracketed h
  · cases ha : Domain.toAscii (Percent.decodeBytes (cs.flatMap String.utf8EncodeChar)) with
    | none => rw [ha] at h; cases h
    | some host =>
      have hp := Domain.plain_toAscii ha
      rw [ha] at h
      cases host with
      | nil => cases h
      | cons c host =>
        dsimp only at h
        split at h
        · cases hr : Address.readIPv4 (c :: host) with
          | none => rw [hr] at h; cases h
          | some n =>
            rw [hr] at h
            obtain rfl := Except.ok.inj h
            rw [String.toList_ofList]
            exact Address.plain_renderIPv4 n
        · obtain rfl := Except.ok.inj h
          rwa [String.toList_ofList]

theorem plain_readPlainHost {cs : List Char} {name : String} (h : readPlainHost cs = .ok name) :
    Plain name.toList := by
  unfold readPlainHost at h
  split at h
  · exact plain_readBracketed h
  · split at h
    · cases h
    · next hc =>
      obtain rfl := Except.ok.inj h
      rw [String.toList_ofList]
      refine Percent.plain_encode_of_plain fun c hm => ?_
      have hi : isInvalidHostChar c = false := by
        rw [List.any_eq_true, not_exists] at hc
        simpa using fun hi => hc c ⟨hm, hi⟩
      simp only [isInvalidHostChar, Bool.or_eq_false_iff, beq_eq_false_iff_ne] at hi
      simp only [Http.endsAuthority, Bool.or_eq_false_iff, beq_eq_false_iff_ne]
      tauto

/-- User information is escaped. -/
theorem plain_readUser (cs : List Char) :
    Plain (readUser cs).1.toList ∧ ∀ p ∈ (readUser cs).2, Plain p.toList := by
  have he : ∀ cs, Plain (Percent.encode Percent.userInfo cs) := Percent.plain_encode rfl rfl rfl
  unfold readUser
  dsimp only
  refine ⟨by rw [String.toList_ofList]; exact he _, fun p hp => ?_⟩
  split_ifs at hp
  · cases hp
  · obtain rfl := Option.some.inj hp
    rw [String.toList_ofList]
    exact he _

/-- An authority of plain parts is plain. -/
theorem Authority.plain_render {a : Authority} (hu : Plain a.username.toList)
    (hp : ∀ p ∈ a.password, Plain p.toList) (hh : Plain a.host.toList) : Plain a.render.toList := by
  have hmarks : Http.endsAuthority ':' = false ∧ Http.endsAuthority '@' = false := by decide
  obtain ⟨username, password, host, port⟩ := a
  unfold Authority.render
  dsimp only
  rw [String.toList_append, String.toList_append, Plain.append_iff, Plain.append_iff]
  refine ⟨⟨?_, hh⟩, ?_⟩
  · split_ifs
    · simp
    · rw [String.toList_append, String.toList_append, Plain.append_iff, Plain.append_iff]
      refine ⟨⟨hu, ?_⟩, by simpa using hmarks.2⟩
      cases password with
      | none => simp
      | some p => simpa using ⟨hmarks.1, hp p rfl⟩
  · cases port with
    | none => simp
    | some n =>
      show Plain (":" ++ String.ofList (Nat.toDigits 10 n)).toList
      simpa using ⟨hmarks.1, plain_toDigits (by decide) (by decide)⟩

/-! ## Reading in stages -/

/-- What is read behind a host: a port, if there is one. -/
def readBehindHost (scheme : String) (user : String × Option String) (name : String) (cs : List Char) :
    Except Fault (Authority × List Char) := do
  if name.isEmpty && cs.head? == some ':' then throw .emptyHost
  let (port, rest) ← match cs with
    | ':' :: behind => readPort scheme behind
    | _ => pure (none, cs)
  if name.isEmpty && (user.1 != "" || user.2.isSome) then throw .emptyHost
  return (⟨user.1, user.2, name, port⟩, rest)

/-- What is read behind user information: a host, and what stands behind it. -/
def readBehindUser (scheme : String) (user : String × Option String) (cs : List Char) :
    Except Fault (Authority × List Char) := do
  let special := isSpecialScheme scheme
  let extent := cs.takeWhile (!endsAuthority special ·)
  let host := extent.take (hostLength false extent)
  if special && host.isEmpty then throw .emptyHost
  let name ← (if special then readHost else readPlainHost) host
  readBehindHost scheme user name (cs.drop host.length)

/-- User information is read first, if there is any, and then what stands behind it. If it is empty and no host
follows, nothing else may follow. -/
theorem readAuthority_eq (scheme : String) (cs : List Char) :
    readAuthority scheme cs = match splitUser? (cs.takeWhile (!endsAuthority (isSpecialScheme scheme) ·)) with
      | none => readBehindUser scheme ("", none) cs
      | some ([], []) =>
        if (cs.drop 1).isEmpty then readBehindUser scheme (readUser []) (cs.drop 1) else .error .emptyHost
      | some (user, _) => readBehindUser scheme (readUser user) (cs.drop (user.length + 1)) := by
  unfold readAuthority readBehindUser
  dsimp only
  generalize splitUser? (cs.takeWhile (!endsAuthority (isSpecialScheme scheme) ·)) = user
  rcases user with _ | ⟨_ | ⟨c, user⟩, _ | ⟨c', host⟩⟩
  · cases isSpecialScheme scheme <;> rfl
  · by_cases hbehind : (cs.drop 1).isEmpty = true
    · refine (if_neg (by simpa using hbehind)).trans ?_
      rw [if_pos hbehind]
      cases isSpecialScheme scheme <;> rfl
    · refine (if_pos (by simpa using hbehind)).trans ?_
      rw [if_neg hbehind]
      rfl
  · cases isSpecialScheme scheme <;> rfl
  · cases isSpecialScheme scheme <;> rfl
  · cases isSpecialScheme scheme <;> rfl

section Stages

variable {scheme name : String} {user : String × Option String} {cs rest : List Char} {a : Authority}

theorem readBehindHost_colon :
    readBehindHost scheme user name (':' :: cs) =
      if name.isEmpty then .error .emptyHost
      else (readPort scheme cs).map fun p => (⟨user.1, user.2, name, p.1⟩, p.2) := by
  have hport : readBehindHost scheme user name (':' :: cs) =
      if name.isEmpty && some ':' == some ':' then .error .emptyHost
      else readPort scheme cs >>= fun p =>
        if name.isEmpty && (user.1 != "" || user.2.isSome) then .error .emptyHost
        else .ok (⟨user.1, user.2, name, p.1⟩, p.2) := rfl
  rw [hport]
  cases name.isEmpty with
  | true => rfl
  | false => cases readPort scheme cs <;> rfl

theorem readBehindHost_of_head? (h : cs.head? ≠ some ':') :
    readBehindHost scheme user name cs =
      if name.isEmpty && (user.1 != "" || user.2.isSome) then .error .emptyHost
      else .ok (⟨user.1, user.2, name, none⟩, cs) := by
  have hcolon : ¬ (name.isEmpty && cs.head? == some ':') = true := by simp [h]
  unfold readBehindHost
  dsimp only
  rw [if_neg hcolon]
  cases cs with
  | nil => rfl
  | cons c cs =>
    split
    · next heq => exact absurd (congrArg List.head? heq) h
    · rfl

theorem eq_of_readBehindHost (h : readBehindHost scheme user name cs = .ok (a, rest)) :
    ∃ port, a = ⟨user.1, user.2, name, port⟩ := by
  by_cases hcolon : cs.head? = some ':'
  · obtain ⟨cs, rfl⟩ := List.head?_eq_some_iff.1 hcolon
    rw [readBehindHost_colon] at h
    split at h
    · cases h
    · obtain ⟨p, _, hp⟩ := map_eq_ok_iff.1 h
      exact ⟨p.1, (Prod.mk.inj hp).1.symm⟩
  · rw [readBehindHost_of_head? hcolon] at h
    split at h
    · cases h
    · exact ⟨none, (Prod.mk.inj (Except.ok.inj h)).1.symm⟩

theorem plain_readBehindUser (hu : Plain user.1.toList) (hp : ∀ p ∈ user.2, Plain p.toList)
    (h : readBehindUser scheme user cs = .ok (a, rest)) : Plain a.render.toList := by
  unfold readBehindUser at h
  extract_lets special extent host readName at h
  have h : readName () = .ok (a, rest) := by
    split at h
    · cases h
    · exact h
  obtain ⟨name, hname, h⟩ := bind_eq_ok_iff.1 h
  obtain ⟨port, rfl⟩ := eq_of_readBehindHost h
  have hhost : Plain name.toList := by
    split at hname
    · exact plain_readHost hname
    · exact plain_readPlainHost hname
  exact Authority.plain_render hu hp hhost

/-- The authority that is read is plain. -/
theorem plain_readAuthority (h : readAuthority scheme cs = .ok (a, rest)) : Plain a.render.toList := by
  rw [readAuthority_eq] at h
  split at h
  · refine plain_readBehindUser ?_ ?_ h
    · exact .nil
    · exact nofun
  · split_ifs at h
    exact plain_readBehindUser (plain_readUser _).1 (plain_readUser _).2 h
  · exact plain_readBehindUser (plain_readUser _).1 (plain_readUser _).2 h

end Stages

end Url

end ServiceBroker
