/-
The parts of a URL. The segments of a path that was read hold no slash, no question mark and no number sign,
as its authority does not, so all parts stay apart when the URL is written (`parse_separated`).
-/
import Mathlib.Data.List.TakeWhile
import ServiceBroker.Proofs.Url.Authority

namespace ServiceBroker.Url

/-! ## Paths -/

/-- No segment holds what ends one. -/
def Segmented (list : List String) : Prop :=
  ∀ s ∈ list, Plain s.toList

namespace Segmented

variable {list list' : List String} {s : String}

@[simp] theorem nil : Segmented [] := by simp [Segmented]

@[simp] theorem cons_iff : Segmented (s :: list) ↔ Plain s.toList ∧ Segmented list := by
  simp [Segmented]

@[simp] theorem append_iff : Segmented (list ++ list') ↔ Segmented list ∧ Segmented list' := by
  simp only [Segmented, List.mem_append]
  exact ⟨fun h => ⟨fun s hs => h s (.inl hs), fun s hs => h s (.inr hs)⟩,
    fun h s hs => hs.elim (h.1 s) (h.2 s)⟩

theorem shorten (h : Segmented list) : Segmented (shorten list) := by
  unfold Url.shorten
  split
  · split_ifs
    · exact h
    · exact fun s hs => h s (List.mem_of_mem_dropLast hs)
  · exact h

theorem settle (h : Segmented list) (file : Bool) (hs : Plain s.toList) : Segmented (settle file list s) := by
  have hcolon : Http.endsAuthority ':' = false := by decide
  unfold Url.settle
  split_ifs
  · simpa using h.shorten
  · simpa using h
  · simpa [hcolon] using hs.mono fun c hc => List.mem_of_mem_take hc
  · simpa using ⟨h, hs⟩

theorem advance {file : Bool} (h : Segmented list) (hs : Plain s.toList) : Segmented (advance file list s) := by
  unfold Url.advance
  split_ifs
  · exact h.shorten
  · exact h
  · exact h.settle file hs

theorem foldl_advance {file : Bool} {pieces : List String} (h : Segmented list) (hp : Segmented pieces) :
    Segmented (pieces.foldl (Url.advance file) list) := by
  induction pieces generalizing list with
  | nil => exact h
  | cons p pieces ih =>
    obtain ⟨hp, hps⟩ := cons_iff.1 hp
    exact ih (h.advance hp) hps

theorem dropLeadingEmpty (h : Segmented list) : Segmented (dropLeadingEmpty list) := by
  fun_induction Url.dropLeadingEmpty list with
  | case1 next rest ih => exact ih (cons_iff.1 h).2
  | case2 => simp
  | case3 => exact h

end Segmented

/-- The pieces between slashes hold no slash. -/
theorem plain_splitPath (special : Bool) {cs : List Char} (h : ∀ c ∈ cs, endsPath c = false) :
    (∀ piece ∈ (splitPath special cs).1, Plain piece) ∧ Plain (splitPath special cs).2 := by
  induction cs with
  | nil => simp [splitPath]
  | cons c cs ih =>
    obtain ⟨hc, hcs⟩ := List.forall_mem_cons.1 h
    specialize ih hcs
    revert ih
    rw [splitPath]
    split
    rename_i pieces last hsplit
    rw [hsplit]
    rintro ⟨hpieces, hlast⟩
    split_ifs with hslash
    · exact ⟨List.forall_mem_cons.2 ⟨.nil, hpieces⟩, hlast⟩
    · have hc : Http.endsAuthority c = false := by
        simp only [isSlash, Bool.or_eq_true, beq_iff_eq, not_or] at hslash
        simp only [endsPath, Bool.or_eq_false_iff, beq_eq_false_iff_ne] at hc
        simp only [Http.endsAuthority, Bool.or_eq_false_iff, beq_eq_false_iff_ne]
        exact ⟨⟨hslash.1, hc.1⟩, hc.2⟩
      cases pieces with
      | nil => exact ⟨List.forall_mem_nil _, Plain.cons_iff.2 ⟨hc, hlast⟩⟩
      | cons first more =>
        obtain ⟨hfirst, hmore⟩ := List.forall_mem_cons.1 hpieces
        exact ⟨List.forall_mem_cons.2 ⟨Plain.cons_iff.2 ⟨hc, hfirst⟩, hmore⟩, hlast⟩

theorem segmented_readSegments {scheme : String} {cs : List Char} (h : ∀ c ∈ cs, endsPath c = false) :
    Segmented (readSegments scheme cs) := by
  have hplain {piece : List Char} (hp : Plain piece) :
      Plain (String.ofList (Percent.encode Percent.path piece)).toList := by
    rw [String.toList_ofList]
    exact Percent.plain_encode_of_plain hp
  have hsplit := plain_splitPath (isSpecialScheme scheme) h
  unfold readSegments
  dsimp only
  refine (Segmented.foldl_advance .nil fun s hs => ?_).settle _ (hplain hsplit.2)
  obtain ⟨piece, hpiece, rfl⟩ := List.mem_map.1 hs
  exact hplain (hsplit.1 piece hpiece)

/-- A path is cut off where the query or the fragment begins. -/
theorem segmented_readPath (scheme : String) (cs : List Char) : Segmented (readPath scheme cs) := by
  have htext : ∀ c ∈ cs.takeWhile (!endsPath ·), endsPath c = false := by
    intro c hc
    simpa using List.mem_takeWhile_imp hc
  unfold readPath
  dsimp only
  split
  · next c rest heq =>
    rw [heq] at htext
    split_ifs
    · exact segmented_readSegments (List.forall_mem_cons.1 htext).2
    · rw [heq]
      exact segmented_readSegments htext
  · split_ifs <;> simp

/-- A file's path begins with an empty segment only if there is no other. -/
theorem head?_dropLeadingEmpty (list : List String) :
    dropLeadingEmpty list = [""] ∨ (dropLeadingEmpty list).head? ≠ some "" := by
  fun_induction dropLeadingEmpty list with
  | case1 next rest ih => exact ih
  | case2 => exact .inl rfl
  | case3 list h1 h2 =>
    match list with
    | [] => exact absurd rfl h2
    | [s] =>
      by_cases hs : s = ""
      · exact .inl (by rw [hs])
      · exact .inr (by simpa using hs)
    | s :: next :: rest =>
      refine .inr fun hs => ?_
      obtain rfl := Option.some.inj hs
      exact h1 next rest rfl

/-! ## URLs -/

/-- The parts of a URL are told apart by what stands between them: its scheme is one, its authority and its
segments hold none of the characters that end them. A file's path begins with an empty segment only if there
is no other. -/
structure Separated (u : Url) : Prop where
  scheme : ∀ c ∈ u.scheme.toList, isSchemeChar c = true
  authority : ∀ a ∈ u.authority, Plain a.render.toList
  segments : ∀ list, u.path = .segments list → Segmented list
  file : u.scheme = "file" → ∀ list, u.path = .segments list → list = [""] ∨ list.head? ≠ some ""

/-- A capital letter has a small one for which it may stand in a scheme. -/
theorem isSchemeChar_lower {c : Char} (h : isSchemeChar c = true) : isSchemeChar (Unicode.lower c) = true := by
  unfold Unicode.lower
  split_ifs with hc
  · obtain ⟨hA, hZ⟩ := hc
    have hA : 65 ≤ c.toNat := hA
    have hZ : c.toNat ≤ 90 := hZ
    generalize c.toNat = n at *
    interval_cases n <;> decide
  · exact h

/-- A scheme begins with a letter and ends at a colon. -/
theorem splitScheme?_eq_some_iff {cs rest : List Char} {scheme : String} :
    splitScheme? cs = some (scheme, rest) ↔
      (∃ c ∈ cs.head?, c.isAlpha = true) ∧ cs.dropWhile isSchemeChar = ':' :: rest ∧
        scheme = String.ofList ((cs.takeWhile isSchemeChar).map Unicode.lower) := by
  constructor
  · intro h
    unfold splitScheme? at h
    split at h
    · next first cs =>
      split at h
      · next halpha =>
        split at h
        · next hdrop =>
          obtain ⟨rfl, rfl⟩ := Prod.mk.inj (Option.some.inj h)
          exact ⟨⟨first, rfl, halpha⟩, hdrop, rfl⟩
        · cases h
      · cases h
    · cases h
  · rintro ⟨⟨c, hc, halpha⟩, hdrop, rfl⟩
    obtain ⟨cs, rfl⟩ := List.head?_eq_some_iff.1 hc
    unfold splitScheme?
    rw [hdrop]
    exact if_pos halpha

theorem scheme_splitScheme? {cs rest : List Char} {scheme : String} (h : splitScheme? cs = some (scheme, rest)) :
    ∀ c ∈ scheme.toList, isSchemeChar c = true := by
  obtain ⟨_, _, rfl⟩ := splitScheme?_eq_some_iff.1 h
  intro c hc
  rw [String.toList_ofList] at hc
  obtain ⟨c', hc', rfl⟩ := List.mem_map.1 hc
  exact isSchemeChar_lower (List.mem_takeWhile_imp hc')

theorem separated_assemble {scheme : String} {authority : Option Authority} {path : Path} {rest : List Char}
    (hs : ∀ c ∈ scheme.toList, isSchemeChar c = true) (ha : ∀ a ∈ authority, Plain a.render.toList)
    (hp : ∀ list, path = .segments list → Segmented list)
    (hf : scheme = "file" → ∀ list, path = .segments list → list = [""] ∨ list.head? ≠ some "") :
    (assemble scheme authority path rest).Separated :=
  ⟨hs, ha, hp, hf⟩

/-- A URL with an authority, if it is not a file's. -/
theorem separated_authority {scheme : String} {cs : List Char} {p : Authority × List Char}
    (hs : ∀ c ∈ scheme.toList, isSchemeChar c = true) (hne : scheme ≠ "file")
    (hr : readAuthority scheme cs = .ok p) :
    (assemble scheme (some p.1) (.segments (readPath scheme p.2)) (p.2.dropWhile (!endsPath ·))).Separated := by
  refine separated_assemble hs (fun a ha => ?_) (fun list hl => ?_) fun hf => absurd hf hne
  · obtain rfl := Option.some.inj ha
    exact plain_readAuthority hr
  · obtain rfl := Path.segments.inj hl
    exact segmented_readPath _ _

theorem plain_readFileHost {cs rest : List Char} {host : String} (h : readFileHost cs = .ok (host, rest)) :
    Plain host.toList := by
  unfold readFileHost at h
  extract_lets extent rest' at h
  split at h
  · obtain ⟨rfl, rfl⟩ := Prod.mk.inj (Except.ok.inj h)
    exact .nil
  · split at h
    · obtain ⟨rfl, rfl⟩ := Prod.mk.inj (Except.ok.inj h)
      exact .nil
    · obtain ⟨name, hr, h⟩ := bind_eq_ok_iff.1 h
      obtain ⟨rfl, rfl⟩ := Prod.mk.inj (Except.ok.inj h)
      split_ifs
      · exact .nil
      · exact plain_readHost hr

theorem exists_assemble_of_readFile {cs : List Char} {u : Url} (h : readFile cs = .ok u) :
    ∃ host list rest, Plain host.toList ∧ Segmented list ∧
      u = assemble "file" (some ⟨"", none, host, none⟩) (.segments (dropLeadingEmpty list)) rest := by
  unfold readFile at h
  extract_lets behindHost at h
  obtain ⟨host, rest, hhost, h⟩ : ∃ host rest, Plain host.toList ∧ behindHost (host, rest) = .ok u := by
    have hnone (h : behindHost ("", cs) = .ok u) :
        ∃ host rest, Plain host.toList ∧ behindHost (host, rest) = .ok u := ⟨"", cs, .nil, h⟩
    split at h
    · next rest =>
      split at h
      · obtain ⟨⟨host, rest⟩, hr, h⟩ := bind_eq_ok_iff.1 h
        exact ⟨host, rest, plain_readFileHost hr, h⟩
      · exact hnone h
    · exact hnone h
  refine ⟨_, _, _, ?_, segmented_readPath _ _, (Except.ok.inj h).symm⟩
  split
  · split_ifs
    · exact .nil
    · exact hhost
  · exact hhost

/-- A file's URL. -/
theorem separated_readFile {cs : List Char} {u : Url} (h : readFile cs = .ok u) : u.Separated := by
  obtain ⟨host, list, rest, hhost, hlist, rfl⟩ := exists_assemble_of_readFile h
  have hscheme : "file".toList.all isSchemeChar = true := by decide
  refine separated_assemble (List.all_eq_true.1 hscheme) (fun a ha => ?_) (fun list hl => ?_) (fun _ list hl => ?_)
  · obtain rfl := Option.some.inj ha
    exact Authority.plain_render .nil nofun hhost
  · obtain rfl := Path.segments.inj hl
    exact hlist.dropLeadingEmpty
  · obtain rfl := Path.segments.inj hl
    exact head?_dropLeadingEmpty _

/-- A URL that was read is put together from parts, and its scheme is the one that its text begins with. -/
theorem exists_assemble_of_parse {text : String} {u : Url} (h : parse text = .ok u) :
    ∃ scheme cs authority path rest,
      splitScheme? (clean text) = some (scheme, cs) ∧ u = assemble scheme authority path rest := by
  unfold parse at h
  split at h
  · next scheme cs hscheme =>
    split_ifs at h with hfile
    · obtain ⟨_, _, _, _, _, rfl⟩ := exists_assemble_of_readFile h
      obtain rfl : scheme = "file" := by simpa using hfile
      exact ⟨_, cs, _, _, _, hscheme, rfl⟩
    · obtain ⟨_, _, h⟩ := bind_eq_ok_iff.1 h
      exact ⟨_, cs, _, _, _, hscheme, (Except.ok.inj h).symm⟩
    · split at h
      · obtain ⟨_, _, h⟩ := bind_eq_ok_iff.1 h
        exact ⟨_, _, _, _, _, hscheme, (Except.ok.inj h).symm⟩
      · exact ⟨_, _, _, _, _, hscheme, (Except.ok.inj h).symm⟩
      · exact ⟨_, _, _, _, _, hscheme, (Except.ok.inj h).symm⟩
  · cases h

/-- The parts of a URL that was read are told apart. -/
theorem parse_separated {text : String} {u : Url} (h : parse text = .ok u) : u.Separated := by
  unfold parse at h
  split at h
  · next scheme cs hscheme =>
    have hs := scheme_splitScheme? hscheme
    split_ifs at h with hfile hspecial
    · exact separated_readFile h
    · have hne : scheme ≠ "file" := by simpa using hfile
      obtain ⟨⟨authority, rest⟩, hr, h⟩ := bind_eq_ok_iff.1 h
      obtain rfl := Except.ok.inj h
      exact separated_authority hs hne hr
    · have hne : scheme ≠ "file" := by simpa using hfile
      split at h
      · next cs =>
        obtain ⟨⟨authority, rest⟩, hr, h⟩ := bind_eq_ok_iff.1 h
        obtain rfl := Except.ok.inj h
        exact separated_authority hs hne hr
      · obtain rfl := Except.ok.inj h
        refine separated_assemble hs nofun (fun list hl => ?_) fun hf => absurd hf hne
        obtain rfl := Path.segments.inj hl
        exact segmented_readPath _ _
      · obtain rfl := Except.ok.inj h
        exact separated_assemble hs nofun nofun nofun
  · cases h

end ServiceBroker.Url
