/-
The target of a request. A URL whose parts are told apart is sent as it is written, without its fragment, and
only if it has an authority (`target_render`). So the path of the target is the path of the URL, and it gives
the segments back (`path_of_target`, `slashed_injective`).
-/
import ServiceBroker.Proofs.Url.Parts

namespace ServiceBroker

/-! ## Splitting -/

namespace Plain

variable {cs rest : List Char}

/-- A plain text ends where a character that ends authorities comes first. -/
theorem takeWhile_append (h : Plain cs) (hr : ∀ c ∈ rest.head?, Http.endsAuthority c = true) :
    (cs ++ rest).takeWhile (!Http.endsAuthority ·) = cs :=
  takeWhile_not_append h hr

theorem dropWhile_append (h : Plain cs) (hr : ∀ c ∈ rest.head?, Http.endsAuthority c = true) :
    (cs ++ rest).dropWhile (!Http.endsAuthority ·) = rest :=
  dropWhile_not_append h hr

end Plain

namespace Url

/-! ## The text of a path -/

/-- Segments as they are written, each behind a slash. -/
def slashed (list : List String) : List Char :=
  list.flatMap fun s => '/' :: s.toList

@[simp] theorem slashed_nil : slashed [] = [] := rfl

@[simp] theorem slashed_cons (s : String) (list : List String) :
    slashed (s :: list) = '/' :: (s.toList ++ slashed list) := rfl

@[simp] theorem slashed_append (list list' : List String) :
    slashed (list ++ list') = slashed list ++ slashed list' := by
  simp [slashed]

theorem toList_render_segments (list : List String) : (Path.segments list).render.toList = slashed list := by
  unfold Path.render slashed
  induction list with
  | nil => rfl
  | cons s list ih => simp_all [String.join_cons]

theorem endsAuthority_of_mem_head?_slashed (list : List String) :
    ∀ c ∈ (slashed list).head?, Http.endsAuthority c = true := by
  cases list with
  | nil => nofun
  | cons s list =>
    intro c hc
    obtain rfl := Option.some.inj hc
    rfl

theorem endsAuthority_of_mem_head?_slashed_append {list : List String} (h : list ≠ []) (rest : List Char) :
    ∀ c ∈ (slashed list ++ rest).head?, Http.endsAuthority c = true := by
  cases list with
  | nil => exact absurd rfl h
  | cons s list => exact endsAuthority_of_mem_head?_slashed (s :: list)

variable {list list' : List String}

/-- The segments that are asked for. A path without segments is asked for as one slash. -/
def asked (list : List String) : List String :=
  if list = [] then [""] else list

theorem asked_of_ne_nil (h : list ≠ []) : asked list = list :=
  if_neg h

theorem asked_ne_nil (list : List String) : asked list ≠ [] := by
  unfold asked
  split
  · simp
  · assumption

theorem Segmented.asked (h : Segmented list) : Segmented (asked list) := by
  unfold Url.asked
  split
  · simp
  · exact h

/-- The text of a path holds neither a question mark nor a number sign. -/
theorem Segmented.ne_of_mem_slashed (h : Segmented list) {c : Char} (hc : c ∈ slashed list) :
    c ≠ '?' ∧ c ≠ '#' := by
  obtain ⟨s, hs, hc⟩ := List.mem_flatMap.1 hc
  rcases List.mem_cons.1 hc with rfl | hc
  · decide
  · exact ((h s hs).ne_of_mem hc).2

/-- Paths of different segments are written differently. -/
theorem slashed_injective (h : Segmented list) (h' : Segmented list') (heq : slashed list = slashed list') :
    list = list' := by
  induction list generalizing list' with
  | nil =>
    cases list' with
    | nil => rfl
    | cons s' list' => simp at heq
  | cons s list ih =>
    cases list' with
    | nil => simp at heq
    | cons s' list' =>
      obtain ⟨hs, h⟩ := Segmented.cons_iff.1 h
      obtain ⟨hs', h'⟩ := Segmented.cons_iff.1 h'
      have heq : s.toList ++ slashed list = s'.toList ++ slashed list' := by simpa using heq
      -- A segment ends at the first slash behind it, so both first segments are the same.
      have hfirst : s.toList = s'.toList := by
        rw [← hs.takeWhile_append (endsAuthority_of_mem_head?_slashed list), heq,
          hs'.takeWhile_append (endsAuthority_of_mem_head?_slashed list')]
      rw [String.toList_inj.1 hfirst, ih h h' (List.append_cancel_left (hfirst ▸ heq))]

theorem render_segments_injective (h : Segmented list) (h' : Segmented list')
    (heq : (Path.segments list).render = (Path.segments list').render) : list = list' := by
  refine slashed_injective h h' ?_
  rw [← toList_render_segments, heq, toList_render_segments]

/-! ## The text of a URL -/

/-- What follows the path of a URL: the query and the fragment. -/
def tail (u : Url) : List Char :=
  u.query.elim [] (fun q => '?' :: q.toList) ++ u.fragment.elim [] (fun f => '#' :: f.toList)

theorem mem_head?_tail {u : Url} {c : Char} (h : c ∈ u.tail.head?) : c = '?' ∨ c = '#' := by
  unfold tail at h
  cases hq : u.query with
  | some q =>
    rw [hq] at h
    exact .inl (Option.some.inj h).symm
  | none =>
    cases hf : u.fragment with
    | some f =>
      rw [hq, hf] at h
      exact .inr (Option.some.inj h).symm
    | none => rw [hq, hf] at h; cases h

/-- What stands between the colon of a URL and its path. -/
def front (u : Url) : List Char :=
  match u.authority, u.path with
  | some a, _ => '/' :: '/' :: a.render.toList
  | none, .segments ("" :: _ :: _) => ['/', '.']
  | none, _ => []

theorem toList_render {u : Url} (hp : u.path = .segments list) :
    u.render.toList = u.scheme.toList ++ ':' :: (u.front ++ (slashed list ++ u.tail)) := by
  obtain ⟨scheme, authority, path, query, fragment⟩ := u
  obtain rfl : path = .segments list := hp
  have hpath := toList_render_segments list
  simp only [render, renderUpToFragment, front, tail, String.toList_append, hpath]
  cases authority with
  | some a => cases query <;> cases fragment <;> simp
  | none => split <;> cases query <;> cases fragment <;> simp_all

end Url

/-! ## Targets -/

namespace Http

/-- A query with nothing in front of it. -/
theorem split_query {tail : List Char} (ht : ∀ c ∈ tail.head?, c = '?' ∨ c = '#') :
    (tail.takeWhile (· != '#')).takeWhile (· != '?') = [] ∧
      (tail.takeWhile (· != '#')).dropWhile (· != '?') = tail.takeWhile (· != '#') := by
  cases tail with
  | nil => simp
  | cons c tail => rcases ht c rfl with rfl | rfl <;> simp

/-- A path that was accepted is as it was, and so is the query; a fragment is left out. -/
theorem pathAndQuery_of_slashed {list : List String} {tail text : List Char} (hl : Url.Segmented list)
    (ht : ∀ c ∈ tail.head?, c = '?' ∨ c = '#') (h : pathAndQuery (Url.slashed list ++ tail) = .ok text) :
    text = Url.slashed (Url.asked list) ++ tail.takeWhile (· != '#') := by
  have hfragment : (Url.slashed list ++ tail).takeWhile (· != '#') =
      Url.slashed list ++ tail.takeWhile (· != '#') :=
    List.takeWhile_append_of_pos fun c hc => by simpa using (hl.ne_of_mem_slashed hc).2
  have hpath : ∀ c ∈ Url.slashed list, (c != '?') = true :=
    fun c hc => by simpa using (hl.ne_of_mem_slashed hc).1
  have hquery := split_query ht
  have hroot : (if (Url.slashed list).isEmpty = true then ['/'] else Url.slashed list) =
      Url.slashed (Url.asked list) := by
    cases list <;> rfl
  unfold pathAndQuery at h
  dsimp only at h
  rw [hfragment, List.takeWhile_append_of_pos hpath, List.dropWhile_append_of_pos hpath, hquery.1, hquery.2,
    List.append_nil] at h
  split at h
  · cases h
  · rw [hroot] at h
    exact (Except.ok.inj h).symm

/-- What a target is made of, if the text begins with a scheme. -/
theorem target_of_scheme {scheme rest : List Char} {text t : String} (hs : ∀ c ∈ scheme, isSchemeChar c = true)
    (htext : text.toList = scheme ++ ':' :: rest) (h : target text = .ok t) :
    ∃ behind tail, rest = '/' :: '/' :: behind ∧
      pathAndQuery (behind.dropWhile (!endsAuthority ·)) = .ok tail ∧
      t.toList = scheme ++ ':' :: '/' :: '/' :: (behind.takeWhile (!endsAuthority ·) ++ tail) := by
  have hcolon : isSchemeChar ':' = false := by decide
  have hscheme : (scheme ++ ':' :: rest).takeWhile isSchemeChar = scheme := by
    rw [List.takeWhile_append_of_pos hs]
    simp [hcolon]
  unfold target at h
  rw [htext] at h
  extract_lets cs scheme' limited at h
  have h : limited () = .ok t := by
    split at h
    · cases h
    · exact h
  have hcs : cs = scheme ++ ':' :: rest := rfl
  have hscheme' : scheme' = scheme := hscheme
  clear_value cs scheme'
  subst hscheme'
  dsimp only [limited] at h
  split at h
  · cases h
  · -- A bare path begins with a slash, which is neither part of a scheme nor the colon.
    next behind =>
    cases scheme' with
    | nil => exact absurd (List.cons.inj hcs).1 (by decide)
    | cons c scheme =>
      have hc := hs c (List.mem_cons_self ..)
      rw [← (List.cons.inj hcs).1] at hc
      exact absurd hc (by decide)
  · rw [hcs, List.drop_left] at h
    split at h
    · next behind hrest =>
      obtain rfl := (List.cons.inj hrest).2
      split at h
      · cases h
      · obtain ⟨_, _, h⟩ := bind_eq_ok_iff.1 h
        change (if _ then _ else _) = _ at h
        split at h
        · cases h
        · obtain ⟨tail, htail, h⟩ := bind_eq_ok_iff.1 h
          obtain rfl := Except.ok.inj h
          exact ⟨behind, tail, rfl, htail, by simp⟩
    · cases ha : checkAuthority (scheme' ++ ':' :: rest) <;> rw [ha] at h <;> cases h

/-- The path of a request: what stands in its target behind the scheme and the authority and before the query. -/
def Request.path (r : Request) : String :=
  let rest := (r.target.toList.dropWhile isSchemeChar).drop 3
  String.ofList ((rest.dropWhile (!endsAuthority ·)).takeWhile (· != '?'))

end Http

namespace Url

variable {u : Url} {list : List String}

/-- A text that begins with a slash behind a plain one has nothing in front of it. -/
theorem eq_of_append_eq_slash {cs rest behind : List Char} (h : Plain cs) (heq : cs ++ rest = '/' :: behind) :
    cs = [] ∧ rest = '/' :: behind := by
  cases cs with
  | nil => exact ⟨rfl, heq⟩
  | cons c cs => exact absurd (List.cons.inj heq).1 (h.ne_of_mem (List.mem_cons_self ..)).1

theorem tail_ne_slash (u : Url) (behind : List Char) : u.tail ≠ '/' :: behind := by
  intro heq
  rcases mem_head?_tail (u := u) (c := '/') (by rw [heq]; rfl) with h | h <;> cases h

/-- A URL with no authority does not begin like one that has it. -/
theorem front_ne_slashes (hl : Segmented list) (hp : u.path = .segments list) (ha : u.authority = none)
    (behind : List Char) : u.front ++ (slashed list ++ u.tail) ≠ '/' :: '/' :: behind := by
  intro heq
  unfold front at heq
  rw [ha, hp] at heq
  split at heq
  · contradiction
  · exact absurd (List.cons.inj (List.cons.inj heq).2).1 (by decide)
  · next _ hdot =>
    match list with
    | [] => exact tail_ne_slash u _ heq
    | s :: list =>
      obtain ⟨hs, _⟩ := Segmented.cons_iff.1 hl
      have heq : s.toList ++ (slashed list ++ u.tail) = '/' :: behind := by simpa using heq
      obtain ⟨hs, hrest⟩ := eq_of_append_eq_slash hs heq
      obtain rfl : s = "" := String.toList_inj.1 hs
      cases list with
      | nil => exact tail_ne_slash u _ hrest
      | cons s' list => exact hdot s' list rfl

theorem endsAuthority_of_mem_head?_slashed_tail (list : List String) (u : Url) :
    ∀ c ∈ (slashed list ++ u.tail).head?, Http.endsAuthority c = true := by
  by_cases hne : list = []
  · subst hne
    intro c hc
    rcases mem_head?_tail hc with rfl | rfl <;> rfl
  · exact endsAuthority_of_mem_head?_slashed_append hne u.tail

/-- A URL that is sent has an authority, and is sent as it is written without its fragment. -/
theorem target_render (hu : u.Separated) (hp : u.path = .segments list) {t : String}
    (h : Http.target u.render = .ok t) :
    ∃ a, u.authority = some a ∧
      t.toList = u.scheme.toList ++ ':' :: '/' :: '/' ::
        (a.render.toList ++ (slashed (asked list) ++ u.tail.takeWhile (· != '#'))) := by
  have hl := hu.segments list hp
  obtain ⟨behind, tail, hbehind, htail, ht⟩ := Http.target_of_scheme hu.scheme (toList_render hp) h
  -- Two slashes follow the colon only if there is an authority, and it ends where the path begins.
  cases ha : u.authority with
  | none => exact absurd hbehind (front_ne_slashes hl hp ha behind)
  | some a =>
    have hplain := hu.authority a ha
    have hfront : u.front = '/' :: '/' :: a.render.toList := by
      unfold front
      rw [ha]
    rw [hfront] at hbehind
    obtain rfl : a.render.toList ++ (slashed list ++ u.tail) = behind :=
      (List.cons.inj (List.cons.inj hbehind).2).2
    have hslash := endsAuthority_of_mem_head?_slashed_tail list u
    rw [hplain.dropWhile_append hslash] at htail
    rw [hplain.takeWhile_append hslash,
      Http.pathAndQuery_of_slashed hl (fun c hc => mem_head?_tail hc) htail] at ht
    exact ⟨a, rfl, ht⟩

theorem Separated.takeWhile_scheme (hu : u.Separated) (rest : List Char) :
    (u.scheme.toList ++ ':' :: rest).takeWhile Http.isSchemeChar = u.scheme.toList := by
  have hscheme : ∀ c ∈ u.scheme.toList, Http.isSchemeChar c = true := hu.scheme
  have hcolon : ¬ Http.isSchemeChar ':' = true := by decide
  rw [List.takeWhile_append_of_pos hscheme, List.takeWhile_cons_of_neg hcolon, List.append_nil]

theorem Separated.dropWhile_scheme (hu : u.Separated) (rest : List Char) :
    (u.scheme.toList ++ ':' :: rest).dropWhile Http.isSchemeChar = ':' :: rest := by
  have hscheme : ∀ c ∈ u.scheme.toList, Http.isSchemeChar c = true := hu.scheme
  have hcolon : ¬ Http.isSchemeChar ':' = true := by decide
  rw [List.dropWhile_append_of_pos hscheme, List.dropWhile_cons_of_neg hcolon]

/-- The path of a target is the path of the URL. -/
theorem path_of_target (hu : u.Separated) (hp : u.path = .segments list) {r : Http.Request}
    (h : Http.target u.render = .ok r.target) : r.path = (Path.segments (asked list)).render := by
  obtain ⟨a, ha, ht⟩ := target_render hu hp h
  have hl := (hu.segments list hp).asked
  have hquery : ∀ c ∈ slashed (asked list), (c != '?') = true :=
    fun c hc => by simpa using (hl.ne_of_mem_slashed hc).1
  unfold Http.Request.path
  rw [ht, hu.dropWhile_scheme]
  simp only [List.drop_succ_cons, List.drop_zero]
  rw [(hu.authority a ha).dropWhile_append (endsAuthority_of_mem_head?_slashed_append (asked_ne_nil list) _),
    List.takeWhile_append_of_pos hquery, (Http.split_query fun c hc => mem_head?_tail hc).1, List.append_nil,
    ← toList_render_segments, String.ofList_toList]

end Url

end ServiceBroker
