/-
Identifiers as segments. A name, which is neither one dot nor two and has no tabs and line breaks, becomes
one segment at the end of a path, and different names become different ones (`push_of_isOpen`,
`escaped_injective`). Texts that are no names never do, so a path has one escaped segment for each text that
was put behind it exactly if the texts are names (`extension_eq_iff`).
-/
import ServiceBroker.Proofs.Url.Target

namespace ServiceBroker.Url

/-! ## Names -/

/-- Texts that make a segment of their own: they are no dots, and have no tabs and line breaks. -/
def IsName (text : String) : Prop :=
  text ≠ "." ∧ text ≠ ".." ∧ ∀ c ∈ text.toList, isIgnored c = false

-- The characters of the text are looked at, not all characters there are.
instance (text : String) : Decidable (IsName text) :=
  have := List.decidableBAll (fun c => isIgnored c = false) text.toList
  inferInstanceAs (Decidable (_ ∧ _ ∧ _))

/-- What is left of a text without tabs and line breaks. -/
def kept (text : String) : String :=
  String.ofList (text.toList.filter (!isIgnored ·))

/-- A text as a segment is written. -/
def escaped (special : Bool) (text : String) : String :=
  String.ofList (Percent.encode (Percent.segment special) text.toList)

variable {special file : Bool} {text : String} {texts list : List String}

theorem kept_eq_self_iff : kept text = text ↔ ∀ c ∈ text.toList, isIgnored c = false := by
  unfold kept
  rw [← String.toList_inj, String.toList_ofList, List.filter_eq_self]
  simp

theorem escaped_injective (special : Bool) : Function.Injective (escaped special) := by
  intro text text' h
  have h := String.ofList_injective h
  exact String.toList_inj.1 (Percent.encode_injective (by cases special <;> rfl) h)

@[simp] theorem escaped_empty (special : Bool) : escaped special "" = "" := rfl

theorem plain_escaped (special : Bool) (text : String) : Plain (escaped special text).toList := by
  rw [escaped, String.toList_ofList]
  refine Percent.plain_encode ?_ ?_ ?_ _ <;> cases special <;> rfl

theorem segmented_map_escaped (special : Bool) (texts : List String) : Segmented (texts.map (escaped special)) := by
  intro s hs
  obtain ⟨text, _, rfl⟩ := List.mem_map.1 hs
  exact plain_escaped special text

/-- A segment that is read back as a text is that text, escaped. -/
theorem eq_of_decodeBytes_escaped (special : Bool) {text' : String}
    (h : Percent.decodeBytes ((escaped special text).toList.flatMap String.utf8EncodeChar) =
      text'.toList.flatMap String.utf8EncodeChar) : text = text' := by
  rw [escaped, String.toList_ofList, Percent.decodeBytes_encode (by cases special <;> rfl)] at h
  exact String.toList_inj.1 (Utf8.eq_of_flatMap_eq h)

/-- Only a dot is written like one: the percent sign of its other spellings would be escaped. -/
theorem isSingleDot_escaped (h : text ≠ ".") : isSingleDot (escaped special text) = false := by
  by_contra hdot
  refine h (eq_of_decodeBytes_escaped special ?_)
  simp only [isSingleDot, Bool.not_eq_false, Bool.or_eq_true, beq_iff_eq] at hdot
  rcases hdot with (hdot | hdot) | hdot <;> rw [hdot] <;> decide

theorem isDoubleDot_escaped (h : text ≠ "..") : isDoubleDot (escaped special text) = false := by
  by_contra hdot
  refine h (eq_of_decodeBytes_escaped special ?_)
  simp only [isDoubleDot, Bool.not_eq_false, List.contains_iff_mem, List.mem_cons, List.not_mem_nil,
    or_false] at hdot
  rcases hdot with hdot | hdot | hdot | hdot | hdot | hdot | hdot | hdot | hdot <;> rw [hdot] <;> decide

/-! ## One more segment -/

/-- The path that something is put behind: a path of nothing but a slash has no segments. -/
def opened (list : List String) : List String :=
  if list == [""] then [] else list

theorem dropLeadingEmpty_of_head? (hne : list ≠ []) (h : list.head? ≠ some "") : dropLeadingEmpty list = list := by
  fun_cases dropLeadingEmpty list with
  | case1 next rest => exact absurd rfl h
  | case2 => exact absurd rfl hne
  | case3 => rfl

theorem dropLeadingEmpty_suffix (hne : list ≠ []) : dropLeadingEmpty list <:+ list := by
  fun_induction dropLeadingEmpty list with
  | case1 next rest ih => exact (ih (by simp)).trans (List.suffix_cons ..)
  | case2 => exact absurd rfl hne
  | case3 => exact List.suffix_refl _

/-- What is put behind a path, unless it is dots. -/
theorem push_of_ne_dots (h1 : text ≠ ".") (h2 : text ≠ "..") :
    push special file list text =
      if file then dropLeadingEmpty (settle file (opened list) (escaped special (kept text)))
      else settle file (opened list) (escaped special (kept text)) := by
  unfold push
  rw [if_neg (by simp [h1, h2]), escaped, kept, String.toList_ofList]
  rfl

theorem push_of_dots (h : text = "." ∨ text = "..") : push special file list text = list := by
  unfold push
  rw [if_pos (by simpa using h)]

/-- A name is put behind a path as it is escaped. In a file's path what begins with it must not be taken for
a drive or an empty segment. -/
theorem push_of_isName (h : IsName text)
    (hdrive : (file && (opened list).isEmpty && isDriveLetter (escaped special text)) = false)
    (hhead : file = true → (opened list ++ [escaped special text]).head? ≠ some "") :
    push special file list text = opened list ++ [escaped special text] := by
  obtain ⟨h1, h2, hc⟩ := h
  rw [push_of_ne_dots h1 h2, kept_eq_self_iff.2 hc]
  have hsettle : settle file (opened list) (escaped special text) = opened list ++ [escaped special text] := by
    unfold settle
    rw [if_neg (by simp [isDoubleDot_escaped h2]), if_neg (by simp [isSingleDot_escaped h1]),
      if_neg (by simp [hdrive])]
  rw [hsettle]
  split_ifs with hfile
  · exact dropLeadingEmpty_of_head? (by simp) (hhead hfile)
  · rfl

/-- A path with a segment that is not empty at its beginning or with others behind it. Only a file's may not
begin with an empty one. -/
def IsOpen (file : Bool) (list : List String) : Prop :=
  list ≠ [] ∧ list ≠ [""] ∧ (file = true → list.head? ≠ some "")

namespace IsOpen

theorem append (h : IsOpen file list) (list' : List String) : IsOpen file (list ++ list') := by
  obtain ⟨hne, hblank, hhead⟩ := h
  cases list with
  | nil => exact absurd rfl hne
  | cons s list =>
    refine ⟨by simp, fun heq => hblank ?_, fun hf => by simpa using hhead hf⟩
    obtain ⟨rfl, hrest⟩ := List.cons.inj heq
    rw [(List.append_eq_nil_iff.1 hrest).1]

theorem opened (h : IsOpen file list) : opened list = list :=
  if_neg (by simpa using h.2.1)

theorem dropLeadingEmpty_append (h : IsOpen file list) (hf : file = true) (list' : List String) :
    dropLeadingEmpty (list ++ list') = list ++ list' :=
  dropLeadingEmpty_of_head? (h.append list').1 ((h.append list').2.2 hf)

end IsOpen

theorem push_of_isOpen (hl : IsOpen file list) (h : IsName text) :
    push special file list text = list ++ [escaped special text] := by
  have hhead : file = true → (Url.opened list ++ [escaped special text]).head? ≠ some "" := by
    rw [hl.opened]
    exact (hl.append _).2.2
  rw [push_of_isName h (by simp [hl.opened, hl.1]) hhead, hl.opened]

/-- Names are put behind an open path one by one. -/
theorem foldl_push (hl : IsOpen file list) (h : ∀ text ∈ texts, IsName text) :
    texts.foldl (push special file) list = list ++ texts.map (escaped special) := by
  induction texts generalizing list with
  | nil => simp
  | cons text texts ih =>
    obtain ⟨htext, htexts⟩ := List.forall_mem_cons.1 h
    rw [List.foldl_cons, push_of_isOpen hl htext, ih (hl.append _) htexts]
    simp

/-! ## Texts that are no names -/

/-- The last segment stands behind the others, or in place of the one before it. -/
theorem settle_cases (file : Bool) (hne : list ≠ []) (s : String) :
    settle file list s = list.dropLast ++ [""] ∨ settle file list s = list ++ [""] ∨
      settle file list s = list ++ [s] := by
  unfold settle
  split_ifs with hdouble hsingle hdrive
  · unfold shorten
    split
    · split_ifs
      · exact .inr (.inl rfl)
      · exact .inl rfl
    · exact .inr (.inl rfl)
  · exact .inr (.inl rfl)
  · simp [hne] at hdrive
  · exact .inr (.inr rfl)

theorem settle_ne_nil (file : Bool) (list : List String) (s : String) : settle file list s ≠ [] := by
  unfold settle
  split_ifs <;> simp

theorem length_settle_le (file : Bool) (list : List String) (s : String) :
    (settle file list s).length ≤ list.length + 1 := by
  cases list with
  | nil =>
    unfold settle
    split_ifs <;> simp [shorten]
  | cons first list =>
    rcases settle_cases file (List.cons_ne_nil first list) s with h | h | h <;> rw [h] <;> simp

/-- No text adds more than one segment. -/
theorem length_push_le (special file : Bool) (list : List String) (text : String) :
    (push special file list text).length ≤ list.length + 1 := by
  by_cases hdots : text = "." ∨ text = ".."
  · rw [push_of_dots hdots]
    omega
  · obtain ⟨h1, h2⟩ := not_or.1 hdots
    have hopened : (opened list).length ≤ list.length := by
      unfold opened
      split_ifs <;> simp
    have hsettle := length_settle_le file (opened list) (escaped special (kept text))
    have hdrop := (dropLeadingEmpty_suffix
      (settle_ne_nil file (opened list) (escaped special (kept text)))).length_le
    rw [push_of_ne_dots h1 h2]
    split_ifs <;> omega

theorem length_foldl_push_le (special file : Bool) (list texts : List String) :
    (texts.foldl (push special file) list).length ≤ list.length + texts.length := by
  induction texts generalizing list with
  | nil => simp
  | cons text texts ih =>
    have hpush := length_push_le special file list text
    have ih := ih (push special file list text)
    rw [List.foldl_cons, List.length_cons]
    omega

/-- A text that adds a segment to an open path leaves the others as they are; it is a name if the segment is
that text, escaped. -/
theorem push_grown (special : Bool) (hl : IsOpen file list) (text : String) :
    (push special file list text).length ≤ list.length ∨
      ∃ s, push special file list text = list ++ [s] ∧ (s = escaped special text → IsName text) := by
  by_cases hdots : text = "." ∨ text = ".."
  · rw [push_of_dots hdots]
    exact .inl le_rfl
  · obtain ⟨h1, h2⟩ := not_or.1 hdots
    rw [push_of_ne_dots h1 h2, hl.opened]
    have happend (s : String) : (if file then dropLeadingEmpty (list ++ [s]) else list ++ [s]) = list ++ [s] := by
      split_ifs with hf
      · exact hl.dropLeadingEmpty_append hf [s]
      · rfl
    -- The segment takes the place of another one, is left open, or is put at the end.
    rcases settle_cases file hl.1 (escaped special (kept text)) with h | h | h <;> rw [h]
    · left
      have hpos := List.length_pos_of_ne_nil hl.1
      have hdrop := (dropLeadingEmpty_suffix (show list.dropLast ++ [""] ≠ [] by simp)).length_le
      simp only [List.length_append, List.length_dropLast, List.length_singleton] at hdrop
      split_ifs
      · omega
      · simp only [List.length_append, List.length_dropLast, List.length_singleton]
        omega
    · refine .inr ⟨"", happend "", fun hs => ?_⟩
      obtain rfl : text = "" := escaped_injective special (hs.symm.trans (escaped_empty special).symm)
      decide
    · exact .inr ⟨_, happend _, fun hs => ⟨h1, h2, kept_eq_self_iff.1 (escaped_injective special hs)⟩⟩

/-- Where every text has added a segment, what was there before is still there. -/
theorem foldl_push_prefix (hl : IsOpen file list)
    (h : (texts.foldl (push special file) list).length = list.length + texts.length) :
    list <+: texts.foldl (push special file) list := by
  -- A text that adds nothing cannot be made up for, as no other one adds more than one segment.
  induction texts generalizing list with
  | nil => exact List.prefix_refl _
  | cons text texts ih =>
    have hlength := length_foldl_push_le special file (push special file list text) texts
    rw [List.foldl_cons, List.length_cons] at h
    rw [List.foldl_cons]
    rcases push_grown special hl text with hle | ⟨s, hs, _⟩
    · omega
    · rw [hs] at h ⊢
      have h : (texts.foldl (push special file) (list ++ [s])).length = (list ++ [s]).length + texts.length := by
        rw [h, List.length_append, List.length_singleton]
        omega
      exact (List.prefix_append _ _).trans (ih (hl.append _) h)

/-- Only names are found as they are escaped. -/
theorem isName_of_foldl_push (hl : IsOpen file list)
    (h : texts.foldl (push special file) list = list ++ texts.map (escaped special)) :
    ∀ text ∈ texts, IsName text := by
  induction texts generalizing list with
  | nil => simp
  | cons text texts ih =>
    have hlength := length_foldl_push_le special file (push special file list text) texts
    have hcount := congrArg List.length h
    rw [List.foldl_cons] at h hcount
    rw [List.length_append, List.length_map, List.length_cons] at hcount
    rcases push_grown special hl text with hle | ⟨s, hs, hname⟩
    · omega
    · -- The segment of the first text is still there at the end, so it is the one that was looked for.
      rw [hs] at h hcount
      have hlength :
          (texts.foldl (push special file) (list ++ [s])).length = (list ++ [s]).length + texts.length := by
        rw [hcount, List.length_append, List.length_singleton]
        omega
      obtain ⟨segments, hsegments⟩ := foldl_push_prefix (hl.append [s]) hlength
      rw [← hsegments, List.map_cons, List.append_assoc] at h
      obtain ⟨rfl, rfl⟩ := List.cons.inj (List.append_cancel_left h)
      exact List.forall_mem_cons.2 ⟨hname rfl, ih (hl.append _) hsegments.symm⟩

/-! ## The path of a base -/

/-- The segments of a base behind which others are put: one slash at the end is taken away. -/
def base (u : Url) : List String :=
  match u.path with
  | .whole _ => []
  | .segments list => opened (popIfEmpty list)

variable {u : Url}

theorem mem_of_mem_popIfEmpty {s : String} (h : s ∈ popIfEmpty list) : s ∈ list := by
  unfold popIfEmpty at h
  split_ifs at h
  · exact List.mem_of_mem_dropLast h
  · exact h

theorem popIfEmpty_append_blank (h : list ≠ []) : popIfEmpty (list ++ [""]) = list := by
  have hpos := List.length_pos_of_ne_nil h
  unfold popIfEmpty
  rw [if_pos (by simpa using hpos), List.dropLast_concat]

theorem popIfEmpty_of_getLast? (h : list.getLast? ≠ some "") : popIfEmpty list = list :=
  if_neg (by simp [h])

theorem segmented_base (hu : u.Separated) (hp : u.path = .segments list) : Segmented u.base := by
  unfold base opened
  rw [hp]
  dsimp only
  split_ifs
  · exact .nil
  · exact fun s hs => hu.segments list hp s (mem_of_mem_popIfEmpty hs)

theorem head?_popIfEmpty (hu : u.Separated) (hp : u.path = .segments list) (hf : u.scheme = "file") :
    popIfEmpty list = [""] ∨ (popIfEmpty list).head? ≠ some "" := by
  rcases hu.file hf list hp with rfl | hhead
  · exact .inl rfl
  · right
    unfold popIfEmpty
    split_ifs
    · rw [List.head?_dropLast]
      split_ifs
      · exact hhead
      · exact nofun
    · exact hhead

theorem head?_base (hu : u.Separated) (hp : u.path = .segments list) (hf : u.scheme = "file") :
    u.base.head? ≠ some "" := by
  unfold base opened
  rw [hp]
  dsimp only
  split_ifs with hblank
  · exact nofun
  · rcases head?_popIfEmpty hu hp hf with hone | hhead
    · rw [hone] at hblank
      exact absurd rfl hblank
    · exact hhead

theorem isOpen_base_append (hu : u.Separated) (hp : u.path = .segments list) :
    IsOpen (u.scheme == "file") (u.base ++ ["v2"]) := by
  refine ⟨by simp, fun heq => ?_, fun hf => ?_⟩
  · have hlast := congrArg List.getLast? heq
    simp at hlast
  · rw [List.head?_append]
    cases hb : u.base.head? with
    | none => decide
    | some s => simpa [hb] using head?_base hu hp (by simpa using hf)

theorem escaped_v2 (special : Bool) : escaped special "v2" = "v2" := by
  cases special <;> decide

/-- The segments of a base with the major version of the protocol behind them, and texts behind that. -/
def extension (u : Url) (texts : List String) : List String :=
  texts.foldl (push (isSpecialScheme u.scheme) (u.scheme == "file")) (u.base ++ ["v2"])

/-- The major version is taken for nothing else. -/
theorem extend_v2 (hu : u.Separated) (hp : u.path = .segments list) (texts : List String) :
    u.extend ("v2" :: texts) = { u with path := .segments (u.extension texts) } := by
  have hv2 : IsName "v2" := by decide
  have hdrive : isDriveLetter "v2" = false := by decide
  have hbase : opened (popIfEmpty list) = u.base := by rw [base, hp]
  have hescaped := escaped_v2 (isSpecialScheme u.scheme)
  have hopen := isOpen_base_append hu hp
  have hhead : (u.scheme == "file") = true →
      (opened (popIfEmpty list) ++ [escaped (isSpecialScheme u.scheme) "v2"]).head? ≠ some "" := by
    rw [hescaped, hbase]
    exact hopen.2.2
  have hfirst :
      push (isSpecialScheme u.scheme) (u.scheme == "file") (popIfEmpty list) "v2" = u.base ++ ["v2"] := by
    rw [push_of_isName hv2 (by simp [hescaped, hdrive]) hhead, hescaped, hbase]
  unfold extend extension
  rw [hp]
  dsimp only
  rw [List.foldl_cons, hfirst]

/-- There is one escaped segment for each text exactly if the texts are names. -/
theorem extension_eq_iff (hu : u.Separated) (hp : u.path = .segments list) :
    u.extension texts = u.base ++ ("v2" :: texts).map (escaped (isSpecialScheme u.scheme)) ↔
      ∀ text ∈ texts, IsName text := by
  have hopen := isOpen_base_append hu hp
  have hlist : u.base ++ ("v2" :: texts).map (escaped (isSpecialScheme u.scheme)) =
      u.base ++ ["v2"] ++ texts.map (escaped (isSpecialScheme u.scheme)) := by
    rw [List.map_cons, escaped_v2, List.append_assoc, List.singleton_append]
  rw [hlist]
  exact ⟨isName_of_foldl_push hopen, foldl_push hopen⟩

/-! ## Asking for a path -/

/-- The segments of a path that can be asked for. A file's begins with an empty segment only if there is no
other. -/
def IsPath (file : Bool) (list : List String) : Prop :=
  list ≠ [] ∧ Segmented list ∧ (file = true → list = [""] ∨ list.head? ≠ some "")

theorem dropLeadingEmpty_ne_nil (list : List String) : dropLeadingEmpty list ≠ [] := by
  fun_induction dropLeadingEmpty list with
  | case1 next rest ih => exact ih
  | case2 => simp
  | case3 list _ hne => exact hne

theorem push_ne_nil (hne : list ≠ []) (text : String) : push special file list text ≠ [] := by
  by_cases hdots : text = "." ∨ text = ".."
  · rwa [push_of_dots hdots]
  · obtain ⟨h1, h2⟩ := not_or.1 hdots
    rw [push_of_ne_dots h1 h2]
    split_ifs
    · exact dropLeadingEmpty_ne_nil _
    · exact settle_ne_nil _ _ _

/-- The segments of a path that something is put behind, or was. There may be none. -/
def IsTidy (file : Bool) (list : List String) : Prop :=
  Segmented list ∧ (file = true → list = [""] ∨ list.head? ≠ some "")

theorem IsTidy.push (h : IsTidy file list) (text : String) : IsTidy file (push special file list text) := by
  by_cases hdots : text = "." ∨ text = ".."
  · rwa [push_of_dots hdots]
  · obtain ⟨h1, h2⟩ := not_or.1 hdots
    have hopened : Segmented (opened list) := by
      unfold opened
      split_ifs
      · exact .nil
      · exact h.1
    have hsettle := hopened.settle file (plain_escaped special (kept text))
    rw [push_of_ne_dots h1 h2]
    split_ifs with hf
    · exact ⟨hsettle.dropLeadingEmpty, fun _ => head?_dropLeadingEmpty _⟩
    · exact ⟨hsettle, fun hf' => absurd hf' hf⟩

theorem IsTidy.foldl_push (h : IsTidy file list) (texts : List String) :
    IsTidy file (texts.foldl (Url.push special file) list) := by
  induction texts generalizing list with
  | nil => exact h
  | cons text texts ih => exact ih (h.push text)

theorem isTidy_popIfEmpty (hu : u.Separated) (hp : u.path = .segments list) :
    IsTidy (u.scheme == "file") (popIfEmpty list) := by
  constructor
  · intro s hs
    exact hu.segments list hp s (mem_of_mem_popIfEmpty hs)
  · intro hf
    exact head?_popIfEmpty hu hp (by simpa using hf)

/-- Whatever is put behind a URL, its parts stay apart. -/
theorem Separated.extend (hu : u.Separated) (texts : List String) : (u.extend texts).Separated := by
  unfold Url.extend
  split
  · exact hu
  · next list hp =>
    have htidy : IsTidy (u.scheme == "file")
        (texts.foldl (push (isSpecialScheme u.scheme) (u.scheme == "file")) (popIfEmpty list)) :=
      (isTidy_popIfEmpty hu hp).foldl_push texts
    refine ⟨hu.scheme, hu.authority, ?_, ?_⟩
    · intro list' hl
      obtain rfl := Path.segments.inj hl
      exact htidy.1
    · intro hf list' hl
      obtain rfl := Path.segments.inj hl
      exact htidy.2 (by simpa using hf)

theorem IsPath.push (h : IsPath file list) (text : String) : IsPath file (push special file list text) :=
  ⟨push_ne_nil h.1 text, IsTidy.push h.2 text⟩

theorem IsPath.foldl_push (h : IsPath file list) (texts : List String) :
    IsPath file (texts.foldl (Url.push special file) list) := by
  induction texts generalizing list with
  | nil => exact h
  | cons text texts ih => exact ih (h.push text)

theorem isPath_base_append (hu : u.Separated) (hp : u.path = .segments list) :
    IsPath (u.scheme == "file") (u.base ++ ["v2"]) := by
  have hopen := isOpen_base_append hu hp
  refine ⟨hopen.1, Segmented.append_iff.2 ⟨segmented_base hu hp, ?_⟩, fun hf => .inr (hopen.2.2 hf)⟩
  simp [Http.endsAuthority]

theorem withPairs_scheme (u : Url) (pairs : List (String × String)) : (u.withPairs pairs).scheme = u.scheme := by
  unfold withPairs
  split_ifs <;> rfl

theorem withPairs_authority (u : Url) (pairs : List (String × String)) :
    (u.withPairs pairs).authority = u.authority := by
  unfold withPairs
  split_ifs <;> rfl

theorem Separated.withPairs (hu : u.Separated) (pairs : List (String × String)) :
    (u.withPairs pairs).Separated := by
  unfold Url.withPairs
  split_ifs
  · exact hu
  · exact ⟨hu.scheme, hu.authority, hu.segments, hu.file⟩

theorem isPath_extension (hu : u.Separated) (hp : u.path = .segments list) (texts : List String) :
    IsPath (u.scheme == "file") (u.extension texts) :=
  (isPath_base_append hu hp).foldl_push texts

/-- Texts go to the path, and pairs to the query. -/
theorem extend_withPairs (hu : u.Separated) (hp : u.path = .segments list) (texts : List String)
    (pairs : List (String × String)) :
    (u.extend ("v2" :: texts)).withPairs pairs = { u.withPairs pairs with path := .segments (u.extension texts) } := by
  rw [extend_v2 hu hp]
  unfold withPairs
  split_ifs <;> rfl

/-- The path that is asked for is that of the base with what the texts have put behind it. -/
theorem path_of_extended_target (hu : u.Separated) (hp : u.path = .segments list) {pairs : List (String × String)}
    {r : Http.Request} (hr : Http.target ((u.extend ("v2" :: texts)).withPairs pairs).render = .ok r.target) :
    r.path = (Path.segments (u.extension texts)).render := by
  have hp' : ((u.extend ("v2" :: texts)).withPairs pairs).path = .segments (u.extension texts) := by
    rw [extend_withPairs hu hp]
  rw [path_of_target ((hu.extend _).withPairs pairs) hp' hr, asked_of_ne_nil (isPath_extension hu hp texts).1]

end ServiceBroker.Url
