/-
Where a request goes, part by part. Its target names a scheme, an authority, a path and a query; the authority
names who asks, a host and a port. All of them but the path are those of the URL that the request was built for
(`destination_of_target`), whose query ends where it was read to end (`unhashed_parse`).
-/
import Mathlib.Data.List.DropRight
import ServiceBroker.Proofs.Url.Extension
import ServiceBroker.Proofs.Url.Form

namespace ServiceBroker

namespace Http

/-- The parts of a target, as the receiver of a request reads them. -/
structure Destination where
  scheme : String
  userInfo : Option String
  host : String
  port : Option String
  path : String
  query : Option String
deriving DecidableEq

/-! ## Authorities -/

/-- What stands before the last `@` of an authority. -/
def userInfo? (authority : List Char) : Option String :=
  match authority.rdropWhile (· != '@') with
  | [] => none
  | user => some (String.ofList user.dropLast)

/-- What stands behind user information up to the port: a text in brackets, or one without colons. -/
def hostOf (authority : List Char) : List Char :=
  match authority.rtakeWhile (· != '@') with
  | '[' :: address => '[' :: address.takeWhile (· != ']') ++ [']']
  | cs => cs.takeWhile (· != ':')

/-- What stands behind the host and a colon. -/
def port? (authority : List Char) : Option String :=
  match (authority.rtakeWhile (· != '@')).drop (hostOf authority).length with
  | ':' :: port => some (String.ofList port)
  | _ => none

/-- The parts of a target that begins with a scheme and an authority. -/
def Destination.ofParts (scheme : String) (authority : List Char) (path : String) (query : Option String) :
    Destination :=
  ⟨scheme, userInfo? authority, String.ofList (hostOf authority), port? authority, path, query⟩

theorem Destination.ofParts_path (scheme : String) (authority : List Char) (path path' : String)
    (query : Option String) :
    { ofParts scheme authority path query with path := path' } = ofParts scheme authority path' query :=
  rfl

/-! ## Targets -/

namespace Request

/-- The text of a request's authority. -/
def authority (r : Request) : List Char :=
  ((r.target.toList.dropWhile isSchemeChar).drop 3).takeWhile (!endsAuthority ·)

/-- The query of a request: what stands behind the first question mark. -/
def query? (r : Request) : Option String :=
  match r.target.toList.dropWhile (· != '?') with
  | _ :: query => some (String.ofList query)
  | [] => none

/-- Where a request goes, read off its target. -/
def destination (r : Request) : Destination :=
  .ofParts (String.ofList (r.target.toList.takeWhile isSchemeChar)) r.authority r.path r.query?

/-- The pairs of a request's query. -/
def pairs (r : Request) : List (List UInt8 × List UInt8) :=
  Percent.formPairs (Utf8.encode (r.query?.getD ""))

theorem destination_path (r : Request) : { r.destination with path := r.path } = r.destination := by
  unfold destination
  rw [Destination.ofParts_path]

end Request

end Http

namespace Url

variable {u : Url} {list : List String} {r : Http.Request}

/-! ## Queries -/

/-- The query of a URL holds no number sign, so that no fragment begins inside it. -/
def Unhashed (u : Url) : Prop :=
  ∀ q ∈ u.query, ∀ c ∈ q.toList, c ≠ '#'

theorem takeWhile_tail (h : u.Unhashed) :
    u.tail.takeWhile (· != '#') = u.query.elim [] fun q => '?' :: q.toList := by
  have hfragment : (u.fragment.elim [] fun f => '#' :: f.toList).takeWhile (· != '#') = [] := by
    cases u.fragment <;> rfl
  unfold tail
  cases hq : u.query with
  | none => exact hfragment
  | some q =>
    have hmark : ∀ c ∈ '?' :: q.toList, (c != '#') = true :=
      List.forall_mem_cons.2 ⟨by decide, fun c hc => by simpa using h q hq c hc⟩
    rw [Option.elim_some, List.takeWhile_append_of_pos hmark, hfragment, List.append_nil]

theorem ne_hash_of_mem_encode {set : Percent.Set} (h : set 35 = true) {cs : List Char} {c : Char}
    (hc : c ∈ Percent.encode set cs) : c ≠ '#' := by
  rcases Percent.mem_encode hc with he | ⟨_, hs⟩
  · exact (Plain.cons_iff.2 ⟨he.plain, .nil⟩).ne_of_mem (List.mem_singleton_self c) |>.2.2
  · rintro rfl
    exact absurd (h.symm.trans hs) (by decide)

theorem ne_hash_of_readTail {special : Bool} {cs : List Char} {q : String} (hq : q ∈ (readTail special cs).1)
    {c : Char} (hc : c ∈ q.toList) : c ≠ '#' := by
  unfold readTail at hq
  dsimp only at hq
  split at hq
  · obtain rfl := Option.some.inj hq
    rw [String.toList_ofList] at hc
    refine ne_hash_of_mem_encode ?_ hc
    cases special <;> rfl
  · cases hq

theorem unhashed_assemble (scheme : String) (authority : Option Authority) (path : Path) (rest : List Char) :
    (assemble scheme authority path rest).Unhashed :=
  fun _ hq _ hc => ne_hash_of_readTail hq hc

/-- The query of a URL that was read ends before its fragment. -/
theorem unhashed_parse {text : String} (h : parse text = .ok u) : u.Unhashed := by
  obtain ⟨scheme, _, authority, path, rest, _, rfl⟩ := exists_assemble_of_parse h
  exact unhashed_assemble scheme authority path rest

theorem mem_appendPairs {form : List Char} {pairs : List (String × String)} {c : Char}
    (h : c ∈ Percent.appendPairs form pairs) : c ∈ form ∨ c = '&' ∨ ∃ pair, c ∈ Percent.encodePair pair := by
  unfold Percent.appendPairs at h
  induction pairs generalizing form with
  | nil => exact .inl h
  | cons pair pairs ih =>
    rw [List.foldl_cons] at h
    rcases ih h with h | h
    · split_ifs at h
      · exact .inr (.inr ⟨pair, h⟩)
      · rcases List.mem_append.1 h with h | h
        · exact .inl h
        · rcases List.mem_cons.1 h with h | h
          · exact .inr (.inl h)
          · exact .inr (.inr ⟨pair, h⟩)
    · exact .inr h

theorem ne_hash_of_mem_encodePair {pair : String × String} {c : Char} (h : c ∈ Percent.encodePair pair) :
    c ≠ '#' := by
  have htext {text : String} (hc : c ∈ Percent.encodeForm text) : c ≠ '#' := by
    rintro rfl
    have hb : (35 : UInt8) ∈ (Percent.encodeForm text).flatMap String.utf8EncodeChar :=
      List.mem_flatMap.2 ⟨'#', hc, by decide⟩
    exact (Percent.ne_of_mem_encodeForm hb).2.2 rfl
  rcases List.mem_append.1 h with h | h
  · exact htext h
  · rcases List.mem_cons.1 h with rfl | h
    · decide
    · exact htext h

theorem Unhashed.withPairs (h : u.Unhashed) (pairs : List (String × String)) : (u.withPairs pairs).Unhashed := by
  unfold Url.withPairs
  split_ifs
  · exact h
  · intro q hq c hc
    obtain rfl := Option.some.inj hq
    rw [String.toList_ofList] at hc
    rcases mem_appendPairs hc with hc | rfl | ⟨pair, hc⟩
    · cases hu : u.query with
      | none =>
        rw [hu] at hc
        cases hc
      | some q =>
        rw [hu] at hc
        exact h q hu c hc
    · decide
    · exact ne_hash_of_mem_encodePair hc

/-- The pairs of a URL's query. -/
def pairs (u : Url) : List (List UInt8 × List UInt8) :=
  Percent.formPairs (Utf8.encode (u.query.getD ""))

/-- Pairs are read back behind those that were there before. -/
theorem pairs_withPairs (u : Url) (added : List (String × String)) :
    (u.withPairs added).pairs = u.pairs ++ added.map Percent.pairBytes := by
  unfold Url.withPairs
  split_ifs with hadded
  · rw [List.isEmpty_iff.1 hadded, List.map_nil, List.append_nil]
  · unfold pairs Utf8.encode
    rw [Option.getD_some, String.toList_ofList, Percent.formPairs_appendPairs]

theorem pairs_of_query? (h : r.query? = u.query) : r.pairs = u.pairs := by
  unfold Http.Request.pairs pairs
  rw [h]

/-! ## What is read -/

theorem authority_of_target (hu : u.Separated) (hp : u.path = .segments list)
    (h : Http.target u.render = .ok r.target) : ∃ a, u.authority = some a ∧ r.authority = a.render.toList := by
  obtain ⟨a, ha, ht⟩ := target_render hu hp h
  refine ⟨a, ha, ?_⟩
  unfold Http.Request.authority
  rw [ht, hu.dropWhile_scheme]
  exact (hu.authority a ha).takeWhile_append (endsAuthority_of_mem_head?_slashed_append (asked_ne_nil list) _)

theorem query?_of_target (hu : u.Separated) (hq : u.Unhashed) (hp : u.path = .segments list)
    (h : Http.target u.render = .ok r.target) : r.query? = u.query := by
  obtain ⟨a, ha, ht⟩ := target_render hu hp h
  have hl := (hu.segments list hp).asked
  -- Neither the scheme nor the authority nor a segment has a question mark in it.
  have hmark : ∀ c ∈ u.scheme.toList ++ ':' :: '/' :: '/' :: (a.render.toList ++ slashed (asked list)),
      (c != '?') = true := by
    simp only [List.forall_mem_append, List.forall_mem_cons, bne_iff_ne]
    refine ⟨?_, by decide, by decide, by decide, fun c hc => ((hu.authority a ha).ne_of_mem hc).2.1,
      fun c hc => (hl.ne_of_mem_slashed hc).1⟩
    rintro _ hc rfl
    exact absurd (hu.scheme _ hc) (by decide)
  have ht : r.target.toList = (u.scheme.toList ++ ':' :: '/' :: '/' :: (a.render.toList ++ slashed (asked list))) ++
      u.query.elim [] fun q => '?' :: q.toList := by
    rw [ht, takeWhile_tail hq]
    simp
  unfold Http.Request.query?
  rw [ht, List.dropWhile_append_of_pos hmark]
  cases u.query with
  | none => rfl
  | some q => simp

/-- A target is read as the parts of the URL that it was made of, up to the fragment. -/
theorem destination_of_target (hu : u.Separated) (hq : u.Unhashed) (hp : u.path = .segments list)
    (h : Http.target u.render = .ok r.target) :
    ∃ a, u.authority = some a ∧
      r.destination = .ofParts u.scheme a.render.toList (Path.segments (asked list)).render u.query := by
  obtain ⟨_, _, ht⟩ := target_render hu hp h
  obtain ⟨a, ha, hauthority⟩ := authority_of_target hu hp h
  refine ⟨a, ha, ?_⟩
  unfold Http.Request.destination
  rw [hauthority, query?_of_target hu hq hp h, path_of_target hu hp h, ht, hu.takeWhile_scheme, String.ofList_toList]

end Url

end ServiceBroker
