/-
One more slash at the end of a URL's path. What is read in front of a path does not depend on what follows
(`readAuthority_append`), so with a longer path the same URL is read but for the path (`parse_of_authority`). A slash
behind a path that does not end in one makes an empty segment, which is taken away again before anything is put
there (`parse_withSlash`).
-/
import ServiceBroker.Proofs.Url.Extension
import Mathlib.Data.List.DropRight

namespace ServiceBroker.Url

variable {scheme text : String} {cs rest path : List Char} {u : Url}

theorem eq_of_endsPath {c : Char} (h : endsPath c = true) : c = '?' ∨ c = '#' := by
  simpa [endsPath] using h

theorem endsPath_slash : ∀ c ∈ ['/'], endsPath c = false :=
  List.forall_mem_singleton.2 rfl

theorem eq_of_endsAuthority {c : Char} (h : endsAuthority true c = true) :
    c = '/' ∨ c = '\\' ∨ c = '?' ∨ c = '#' := by
  simpa [endsAuthority, isSlash, or_assoc] using h

theorem endsAuthority_of_endsPath {c : Char} (h : endsPath c = true) : endsAuthority true c = true := by
  rcases eq_of_endsPath h with rfl | rfl <;> rfl

/-! ## Characters that count -/

/-- The text of a URL with one more slash at the end of its path: in front of the first question mark or number sign,
or else of the blanks at the end. -/
def withSlash (text : String) : String :=
  let cs := text.toList
  match cs.dropWhile (!endsPath ·) with
  | [] => String.ofList (cs.rdropWhile isOuter ++ '/' :: cs.rtakeWhile isOuter)
  | behind => String.ofList (cs.takeWhile (!endsPath ·) ++ '/' :: behind)

theorem rdropWhile_append_cons {p : Char → Bool} {c : Char} (h : p c = false) :
    (cs ++ c :: rest).rdropWhile p = cs ++ c :: rest.rdropWhile p := by
  have hhead : ∀ x ∈ (c :: cs.reverse).head?, p x = false := by
    rintro _ ⟨⟩
    exact h
  unfold List.rdropWhile
  rw [List.reverse_append, List.reverse_cons, List.append_assoc, List.singleton_append,
    dropWhile_append_of_head? hhead]
  simp

theorem clean_of_append {c : Char} (ht : text.toList = cs ++ c :: rest) (hc : isOuter c = false) :
    clean text = (cs.dropWhile isOuter ++ c :: rest.rdropWhile isOuter).filter (!isIgnored ·) := by
  have hhead : ∀ x ∈ (c :: rest).head?, isOuter x = false := by
    rintro _ ⟨⟩
    exact hc
  show ((text.toList.dropWhile isOuter).rdropWhile isOuter).filter _ = _
  rw [ht, dropWhile_append_of_head? hhead, rdropWhile_append_cons hc]

theorem clean_of_slash (ht : text.toList = cs ++ '/' :: rest) :
    clean text =
      (cs.dropWhile isOuter).filter (!isIgnored ·) ++ '/' :: (rest.rdropWhile isOuter).filter (!isIgnored ·) := by
  rw [clean_of_append ht (by decide), List.filter_append]
  rfl

/-- Blanks at the end do not count. -/
theorem clean_of_blanks (ht : text.toList = cs ++ rest) (hrest : ∀ c ∈ rest, isOuter c = true)
    (hlast : ∀ c ∈ cs.getLast?, isOuter c = false) : clean text = (cs.dropWhile isOuter).filter (!isIgnored ·) := by
  rcases List.eq_nil_or_concat cs with rfl | ⟨front, c, rfl⟩
  · have hnil : text.toList.dropWhile isOuter = [] := by
      rw [ht]
      exact List.dropWhile_eq_nil_iff.2 hrest
    show ((text.toList.dropWhile isOuter).rdropWhile isOuter).filter _ = _
    rw [hnil]
    rfl
  · have hc : isOuter c = false := hlast c (by simp)
    have hnil : rest.rdropWhile isOuter = [] := List.rdropWhile_eq_nil_iff.2 hrest
    rw [List.concat_eq_append] at ht ⊢
    rw [List.append_assoc, List.singleton_append] at ht
    rw [clean_of_append ht hc, hnil, dropWhile_append_of_head? (by simpa using hc)]

/-- The slash stands behind the path, and in front of a mark or of the blanks at the end. -/
theorem exists_withSlash (text : String) : ∃ front behind, text.toList = front ++ behind ∧
    (withSlash text).toList = front ++ '/' :: behind ∧ (∀ c ∈ front, endsPath c = false) ∧
    ((∃ c ∈ behind.head?, endsPath c = true) ∨
      (∀ c ∈ behind, isOuter c = true) ∧ ∀ c ∈ front.getLast?, isOuter c = false) := by
  unfold withSlash
  dsimp only
  split
  · next hall =>
    have hpath : ∀ c ∈ text.toList, endsPath c = false := by simpa using List.dropWhile_eq_nil_iff.1 hall
    refine ⟨_, _, List.rdropWhile_append_rtakeWhile.symm, String.toList_ofList .., ?_, .inr ⟨?_, ?_⟩⟩
    · exact fun c hc => hpath c ((List.rdropWhile_prefix _ _).subset hc)
    · exact fun c hc => List.mem_rtakeWhile_imp hc
    · intro c hc
      have hne := List.ne_nil_of_mem (List.mem_of_getLast? hc)
      rw [List.getLast?_eq_some_getLast hne] at hc
      obtain rfl := Option.some.inj hc
      simpa using List.rdropWhile_last_not isOuter text.toList hne
  · next hmarked =>
    obtain ⟨c, rest, hrest⟩ := List.exists_cons_of_ne_nil hmarked
    have hhead := List.head?_dropWhile_not (!endsPath ·) text.toList
    rw [hrest] at hhead
    refine ⟨_, _, List.takeWhile_append_dropWhile.symm, String.toList_ofList .., ?_, .inl ⟨c, ?_, ?_⟩⟩
    · exact fun c hc => by simpa using List.mem_takeWhile_imp hc
    · rw [hrest]
      rfl
    · simpa using hhead

/-- Of the characters that count, the slash stands behind the path, and all others are as they were. -/
theorem clean_withSlash (text : String) : ∃ front behind, clean text = front ++ behind ∧
    clean (withSlash text) = front ++ '/' :: behind ∧ (∀ c ∈ front, endsPath c = false) ∧
    ∀ c ∈ behind.head?, endsPath c = true := by
  obtain ⟨front, behind, htext, hslash, hfront, hbehind⟩ := exists_withSlash text
  have hkept : ∀ c ∈ (front.dropWhile isOuter).filter (!isIgnored ·), endsPath c = false :=
    fun c hc => hfront c ((List.dropWhile_sublist _).subset (List.mem_of_mem_filter hc))
  have hcounted : clean text = (front.dropWhile isOuter).filter (!isIgnored ·) ++
      (behind.rdropWhile isOuter).filter (!isIgnored ·) ∧
      ∀ c ∈ ((behind.rdropWhile isOuter).filter (!isIgnored ·)).head?, endsPath c = true := by
    rcases hbehind with ⟨c, hc, hmark⟩ | ⟨hblank, hlast⟩
    · obtain ⟨rest, rfl⟩ := List.head?_eq_some_iff.1 hc
      have hcounts : isOuter c = false ∧ isIgnored c = false := by
        rcases eq_of_endsPath hmark with rfl | rfl <;> decide
      have hend : ([] ++ c :: rest).rdropWhile isOuter = [] ++ c :: rest.rdropWhile isOuter :=
        rdropWhile_append_cons hcounts.1
      rw [List.nil_append, List.nil_append] at hend
      rw [clean_of_append htext hcounts.1, List.filter_append, hend]
      exact ⟨rfl, by simpa [hcounts.2] using hmark⟩
    · have hend : behind.rdropWhile isOuter = [] := List.rdropWhile_eq_nil_iff.2 hblank
      rw [clean_of_blanks htext hblank hlast, hend]
      exact ⟨(List.append_nil _).symm, nofun⟩
  exact ⟨_, _, hcounted.1, clean_of_slash hslash, hkept, hcounted.2⟩

/-! ## Schemes -/

/-- A scheme ends before the first slash, question mark or number sign. -/
theorem splitScheme?_append (hr : ∀ c ∈ rest.head?, Http.endsAuthority c = true) :
    splitScheme? (cs ++ rest) = (splitScheme? cs).map fun p => (p.1, p.2 ++ rest) := by
  have hmark : ∀ c ∈ rest.head?, isSchemeChar c = false ∧ c ≠ ':' := by
    intro c hc
    have hc := hr c hc
    simp only [Http.endsAuthority, Bool.or_eq_true, beq_iff_eq] at hc
    rcases hc with (rfl | rfl) | rfl <;> decide
  have hdrop : (cs ++ rest).dropWhile isSchemeChar = cs.dropWhile isSchemeChar ++ rest :=
    dropWhile_append_of_head? fun c hc => (hmark c hc).1
  have htake : (cs ++ rest).takeWhile isSchemeChar = cs.takeWhile isSchemeChar :=
    takeWhile_append_of_head? fun c hc => (hmark c hc).1
  ext ⟨scheme, behind⟩
  rw [Option.map_eq_some_iff, splitScheme?_eq_some_iff, hdrop, htake]
  -- The colon behind a scheme stands in the front part, as the other one does not begin with a colon.
  constructor
  · rintro ⟨⟨c, hc, halpha⟩, hcolon, rfl⟩
    rcases List.cons_eq_append_iff.1 hcolon.symm with ⟨_, hrest⟩ | ⟨name, hname, rfl⟩
    · exact absurd rfl (hmark ':' (by rw [hrest]; rfl)).2
    · have hne : cs ≠ [] := by
        rintro rfl
        cases hname
      rw [List.head?_append_of_ne_nil _ hne] at hc
      exact ⟨_, splitScheme?_eq_some_iff.2 ⟨⟨c, hc, halpha⟩, hname, rfl⟩, rfl⟩
  · rintro ⟨⟨scheme, name⟩, hsplit, ⟨⟩⟩
    obtain ⟨⟨c, hc, halpha⟩, hcolon, rfl⟩ := splitScheme?_eq_some_iff.1 hsplit
    obtain ⟨tail, rfl⟩ := List.head?_eq_some_iff.1 hc
    exact ⟨⟨c, rfl, halpha⟩, by rw [hcolon]; rfl, rfl⟩

theorem mem_of_splitScheme? (h : splitScheme? cs = some (scheme, rest)) {c : Char} (hc : c ∈ rest) : c ∈ cs := by
  obtain ⟨_, hdrop, _⟩ := splitScheme?_eq_some_iff.1 h
  refine (List.dropWhile_sublist isSchemeChar).subset ?_
  rw [hdrop]
  exact List.mem_cons_of_mem _ hc

/-! ## Authorities -/

section Authorities

variable {name : String} {user : String × Option String}

theorem readPort_append (hcs : ∀ c ∈ cs, endsAuthority true c = false)
    (hr : ∀ c ∈ rest.head?, endsAuthority true c = true) :
    readPort scheme (cs ++ rest) = (readPort scheme cs).map fun p => (p.1, rest) := by
  have hdigit : ∀ c ∈ rest.head?, c.isDigit = false := by
    intro c hc
    rcases eq_of_endsAuthority (hr c hc) with rfl | rfl | rfl | rfl <;> decide
  unfold readPort
  rw [takeWhile_append_of_head? hdigit, dropWhile_append_of_head? hdigit]
  dsimp only
  cases Numeral.readDigits 65536 0 (cs.takeWhile Char.isDigit) with
  | error f => rfl
  | ok n =>
    match hbehind : cs.dropWhile Char.isDigit with
    | [] =>
      cases rest with
      | nil => rfl
      | cons c rest => exact if_pos (hr c rfl)
    | c :: behind =>
      have hmem : c ∈ cs := (List.dropWhile_sublist _).subset (by rw [hbehind]; exact List.mem_cons_self ..)
      have hc : ¬ endsAuthority true c = true := by simp [hcs c hmem]
      dsimp only [List.cons_append]
      rw [if_neg hc, if_neg hc]
      rfl

theorem readBehindHost_append (hcolon : ∀ c ∈ cs.head?, c = ':') (hcs : ∀ c ∈ cs, endsAuthority true c = false)
    (hr : ∀ c ∈ rest.head?, endsAuthority true c = true) :
    readBehindHost scheme user name (cs ++ rest) = (readBehindHost scheme user name cs).map fun p => (p.1, rest) := by
  cases cs with
  | nil =>
    have hrest : rest.head? ≠ some ':' := by
      intro h
      exact absurd (hr ':' h) (by decide)
    rw [List.nil_append, readBehindHost_of_head? hrest, readBehindHost_of_head? (by simp)]
    split_ifs <;> rfl
  | cons c cs =>
    obtain rfl := hcolon c rfl
    rw [List.cons_append, readBehindHost_colon, readBehindHost_colon,
      readPort_append (List.forall_mem_cons.1 hcs).2 hr]
    split_ifs
    · rfl
    · cases readPort scheme cs <;> rfl

theorem hostLength_le (inBrackets : Bool) (cs : List Char) : hostLength inBrackets cs ≤ cs.length := by
  induction cs generalizing inBrackets with
  | nil => exact le_rfl
  | cons c cs ih =>
    rw [hostLength]
    split
    · exact Nat.zero_le _
    · exact Nat.succ_le_succ (ih _)

theorem head?_drop_hostLength (inBrackets : Bool) (cs : List Char) :
    ∀ c ∈ (cs.drop (hostLength inBrackets cs)).head?, c = ':' := by
  induction cs generalizing inBrackets with
  | nil => nofun
  | cons c cs ih =>
    rw [hostLength]
    split
    · next hcolon =>
      rintro _ ⟨⟩
      simp_all
    · exact ih _

theorem readBehindUser_append (hs : isSpecialScheme scheme = true) (hcs : ∀ c ∈ cs, endsAuthority true c = false)
    (hr : ∀ c ∈ rest.head?, endsAuthority true c = true) :
    readBehindUser scheme user (cs ++ rest) = (readBehindUser scheme user cs).map fun p => (p.1, rest) := by
  have hextent := takeWhile_not_append hcs hr
  have hextent' : cs.takeWhile (!endsAuthority true ·) = cs := takeWhile_not_eq_self hcs
  have hle := hostLength_le false cs
  have hbehind (name : String) : readBehindHost scheme user name (cs.drop (hostLength false cs) ++ rest) = _ :=
    readBehindHost_append (head?_drop_hostLength false cs) (fun c hc => hcs c (List.mem_of_mem_drop hc)) hr
  unfold readBehindUser
  rw [hs]
  dsimp only
  rw [hextent, hextent', List.length_take_of_le hle, List.drop_append_of_le_length hle]
  simp only [hbehind, if_true]
  split
  · rfl
  · cases readHost (cs.take (hostLength false cs)) <;> rfl

theorem readBehindUser_nil (hs : isSpecialScheme scheme = true) (user : String × Option String) :
    readBehindUser scheme user [] = .error .emptyHost := by
  unfold readBehindUser
  rw [hs]
  rfl

theorem readAuthority_nil (hs : isSpecialScheme scheme = true) : readAuthority scheme [] = .error .emptyHost := by
  rw [readAuthority_eq]
  exact readBehindUser_nil hs _

theorem length_of_splitUser? {user host : List Char} (h : splitUser? cs = some (user, host)) :
    user.length + 1 + host.length = cs.length := by
  unfold splitUser? at h
  dsimp only at h
  split_ifs at h with hlength
  obtain ⟨rfl, rfl⟩ := Prod.mk.inj (Option.some.inj h)
  rw [List.length_take]
  omega

/-- An authority ends where the path, the query or the fragment begins, and does not depend on them. -/
theorem readAuthority_append (hs : isSpecialScheme scheme = true) (hcs : ∀ c ∈ cs, endsAuthority true c = false)
    (hr : ∀ c ∈ rest.head?, endsAuthority true c = true) :
    readAuthority scheme (cs ++ rest) = (readAuthority scheme cs).map fun p => (p.1, rest) := by
  have hextent := takeWhile_not_append hcs hr
  have hextent' : cs.takeWhile (!endsAuthority true ·) = cs := takeWhile_not_eq_self hcs
  rw [readAuthority_eq, readAuthority_eq, hs, hextent, hextent']
  cases huser : splitUser? cs with
  | none => exact readBehindUser_append hs hcs hr
  | some p =>
    obtain ⟨user, host⟩ := p
    have hlength := length_of_splitUser? huser
    have hbehind : readBehindUser scheme (readUser user) (cs.drop (user.length + 1) ++ rest) = _ :=
      readBehindUser_append hs (fun c hc => hcs c (List.mem_of_mem_drop hc)) hr
    rw [← List.drop_append_of_le_length (by omega)] at hbehind
    rcases user with _ | ⟨c, user⟩
    · rcases host with _ | ⟨c, host⟩
      · -- There is no host, whether or not something follows.
        have hnil : cs.drop 1 = [] := List.drop_eq_nil_of_le (by simpa using hlength.ge)
        have hdrop : (cs ++ rest).drop 1 = rest := by
          rw [List.drop_append_of_le_length (by simpa using hlength.le), hnil, List.nil_append]
        dsimp only
        rw [hdrop, hnil]
        cases rest with
        | nil =>
          rw [readBehindUser_nil hs]
          rfl
        | cons c rest =>
          rw [readBehindUser_nil hs]
          rfl
      · exact hbehind
    · exact hbehind

end Authorities

/-! ## Behind the scheme -/

/-- What is written of an authority behind a special scheme: from behind the slashes to the next one. -/
def authorityText (cs : List Char) : List Char :=
  (cs.dropWhile (isSlash true)).takeWhile (!endsAuthority true ·)

/-- What is written behind that authority. -/
def behindAuthority (cs : List Char) : List Char :=
  (cs.dropWhile (isSlash true)).dropWhile (!endsAuthority true ·)

/-- What is written of the path in the text of a URL of a special scheme. -/
def writtenPath (text : String) : List Char :=
  (behindAuthority (((splitScheme? (clean text)).map Prod.snd).getD [])).takeWhile (!endsPath ·)

theorem head?_behindAuthority (cs : List Char) : ∀ c ∈ (behindAuthority cs).head?, endsAuthority true c = true := by
  intro c hc
  have hhead := List.head?_dropWhile_not (!endsAuthority true ·) (cs.dropWhile (isSlash true))
  unfold behindAuthority at hc
  rw [hc] at hhead
  simpa using hhead

theorem mem_of_mem_behindAuthority {c : Char} (h : c ∈ behindAuthority cs) : c ∈ cs :=
  (List.dropWhile_sublist _).subset ((List.dropWhile_sublist _).subset h)

theorem behindAuthority_append (hne : cs.dropWhile (isSlash true) ≠ [])
    (hr : ∀ c ∈ rest.head?, endsAuthority true c = true) :
    behindAuthority (cs ++ rest) = behindAuthority cs ++ rest := by
  unfold behindAuthority
  rw [List.dropWhile_append, if_neg (by simpa using hne), dropWhile_append_of_head? fun c hc => by simp [hr c hc]]

/-- The authority is read alone, and what follows it is what follows it in the text. -/
theorem readAuthority_behind_slashes (hs : isSpecialScheme scheme = true) (hne : cs.dropWhile (isSlash true) ≠ [])
    (hr : ∀ c ∈ rest.head?, endsAuthority true c = true) :
    readAuthority scheme ((cs ++ rest).dropWhile (isSlash true)) =
      (readAuthority scheme (authorityText cs)).map fun p => (p.1, behindAuthority cs ++ rest) := by
  have hauthority : ∀ c ∈ authorityText cs, endsAuthority true c = false := by
    intro c hc
    simpa using List.mem_takeWhile_imp hc
  have hbehind : ∀ c ∈ (behindAuthority cs ++ rest).head?, endsAuthority true c = true := by
    intro c hc
    have hhead := head?_behindAuthority cs
    cases hb : behindAuthority cs with
    | nil => exact hr c (by rwa [hb] at hc)
    | cons x path =>
      rw [hb] at hhead hc
      exact hhead c hc
  have hsplit : authorityText cs ++ behindAuthority cs = cs.dropWhile (isSlash true) :=
    List.takeWhile_append_dropWhile
  rw [← readAuthority_append hs hauthority hbehind, ← List.append_assoc, hsplit, List.dropWhile_append,
    if_neg (by simpa using hne)]

/-- Behind nothing but slashes there has to be a host. -/
theorem readAuthority_behind_nothing (hs : isSpecialScheme scheme = true) (hnil : cs.dropWhile (isSlash true) = [])
    (hr : ∀ c ∈ rest.head?, endsPath c = true) :
    readAuthority scheme ((cs ++ rest).dropWhile (isSlash true)) = .error .emptyHost := by
  have hslash : ∀ c ∈ rest.head?, isSlash true c = false := by
    intro c hc
    rcases eq_of_endsPath (hr c hc) with rfl | rfl <;> rfl
  have hempty : readAuthority scheme ([] ++ rest) = _ :=
    readAuthority_append hs (by simp) fun c hc => endsAuthority_of_endsPath (hr c hc)
  rw [dropWhile_append_of_head? hslash, hnil, hempty, readAuthority_nil hs]
  rfl

/-! ## Paths -/

theorem splitPath_concat_slash (special : Bool) (cs : List Char) :
    splitPath special (cs ++ ['/']) = ((splitPath special cs).1 ++ [(splitPath special cs).2], []) := by
  induction cs with
  | nil => rfl
  | cons c cs ih =>
    rw [List.cons_append, splitPath, splitPath, ih]
    rcases splitPath special cs with ⟨_ | ⟨first, more⟩, last⟩
    · dsimp only
      split_ifs <;> rfl
    · dsimp only
      split_ifs <;> rfl

theorem readSegments_nil (scheme : String) : readSegments scheme [] = [""] := by
  unfold readSegments
  cases scheme == "file" <;> rfl

theorem readSegments_ne_nil (scheme : String) (cs : List Char) : readSegments scheme cs ≠ [] :=
  settle_ne_nil _ _ _

/-- A slash behind segments of which the last one is not empty makes one more, which is empty. -/
theorem readSegments_concat_slash (hf : scheme ≠ "file") (h : (readSegments scheme cs).getLast? ≠ some "") :
    readSegments scheme (cs ++ ['/']) = readSegments scheme cs ++ [""] := by
  have hfile : (scheme == "file") = false := by simpa using hf
  have hencode : String.ofList (Percent.encode Percent.path []) = "" := rfl
  have hblank (list : List String) : settle false list "" = list ++ [""] := rfl
  unfold readSegments at h ⊢
  dsimp only at h ⊢
  rw [splitPath_concat_slash, hfile] at *
  dsimp only at h ⊢
  rw [List.map_append, List.foldl_append, List.map_singleton, List.foldl_cons, List.foldl_nil, hencode, hblank]
  generalize ((splitPath (isSpecialScheme scheme) cs).1.map _).foldl (advance false) [] = list at *
  generalize String.ofList (Percent.encode Percent.path (splitPath (isSpecialScheme scheme) cs).2) = last at *
  congr 1
  -- Dots at the end would have left an empty segment.
  unfold advance
  split_ifs with hdouble hsingle
  · rw [settle, if_pos hdouble] at h
    simp at h
  · rw [settle, if_neg hdouble, if_pos hsingle] at h
    simp at h
  · rfl

theorem readPath_append (hr : ∀ c ∈ rest.head?, endsPath c = true) :
    readPath scheme (cs ++ rest) = readPath scheme cs := by
  have htext : (cs ++ rest).takeWhile (!endsPath ·) = cs.takeWhile (!endsPath ·) :=
    takeWhile_append_of_head? fun c hc => by simp [hr c hc]
  unfold readPath
  rw [htext]

theorem readPath_nil (hs : isSpecialScheme scheme = true) : readPath scheme [] = [""] :=
  if_pos hs

theorem readPath_slash {c : Char} (hs : isSpecialScheme scheme = true) (hc : isSlash true c = true)
    (hpath : ∀ x ∈ c :: path, endsPath x = false) : readPath scheme (c :: path) = readSegments scheme path := by
  have htext : (c :: path).takeWhile (!endsPath ·) = c :: path := takeWhile_not_eq_self hpath
  unfold readPath
  rw [htext, hs]
  exact if_pos hc

/-- One more slash behind a path that does not end in one, or behind an empty one, is taken away again. -/
theorem popIfEmpty_readPath_concat_slash (hs : isSpecialScheme scheme = true) (hf : scheme ≠ "file")
    (hpath : ∀ c ∈ path, endsPath c = false) (hhead : ∀ c ∈ path.head?, isSlash true c = true)
    (h : path = [] ∨ (readPath scheme path).getLast? ≠ some "") :
    popIfEmpty (readPath scheme (path ++ ['/'])) = popIfEmpty (readPath scheme path) := by
  cases path with
  | nil => rw [List.nil_append, readPath_nil hs, readPath_slash hs rfl endsPath_slash, readSegments_nil]
  | cons c path =>
    have hlast := h.resolve_left (List.cons_ne_nil _ _)
    have hmore : ∀ x ∈ c :: (path ++ ['/']), endsPath x = false :=
      List.forall_mem_append.2 ⟨hpath, endsPath_slash⟩
    rw [readPath_slash hs (hhead c rfl) hpath] at hlast
    rw [List.cons_append, readPath_slash hs (hhead c rfl) hmore, readPath_slash hs (hhead c rfl) hpath,
      readSegments_concat_slash hf hlast, popIfEmpty_append_blank (readSegments_ne_nil _ _),
      popIfEmpty_of_getLast? hlast]

theorem getLast?_slashed_of_blank {list : List String} (h : list.getLast? = some "") :
    (slashed list).getLast? = some '/' := by
  obtain ⟨rest, rfl⟩ := List.getLast?_eq_some_iff.1 h
  simp

theorem endsPath_of_mem_writtenPath : ∀ c ∈ writtenPath text, endsPath c = false := by
  intro c hc
  simpa using List.mem_takeWhile_imp hc

theorem head?_writtenPath : ∀ c ∈ (writtenPath text).head?, isSlash true c = true := by
  intro c hc
  have hpath : endsPath c = false := endsPath_of_mem_writtenPath c (List.mem_of_mem_head? hc)
  unfold writtenPath at hc
  have hhead := head?_behindAuthority (((splitScheme? (clean text)).map Prod.snd).getD [])
  generalize behindAuthority (((splitScheme? (clean text)).map Prod.snd).getD []) = behind at hc hhead
  have hends : endsAuthority true c = true := by
    cases behind with
    | nil => cases hc
    | cons x path =>
      rw [List.takeWhile_cons] at hc
      split at hc
      · exact hhead c hc
      · cases hc
  rcases eq_of_endsAuthority hends with rfl | rfl | rfl | rfl
  · rfl
  · rfl
  · cases hpath
  · cases hpath

/-! ## URLs -/

theorem parse_of_special (hscheme : splitScheme? (clean text) = some (scheme, cs))
    (hs : isSpecialScheme scheme = true) (hf : scheme ≠ "file") :
    parse text = (readAuthority scheme (cs.dropWhile (isSlash true))).map fun p =>
      assemble scheme (some p.1) (.segments (readPath scheme p.2)) (p.2.dropWhile (!endsPath ·)) := by
  have hfile : ¬ (scheme == "file") = true := by simpa using hf
  unfold parse
  rw [hscheme]
  dsimp only
  rw [if_neg hfile, if_pos hs]
  cases readAuthority scheme (cs.dropWhile (isSlash true)) <;> rfl

section Longer

variable {front behind : List Char}

/-- What of a text a URL of a special scheme was read from. -/
theorem exists_of_parse (h : parse text = .ok u) (hs : isSpecialScheme u.scheme = true) (hf : u.scheme ≠ "file")
    (hclean : clean text = front ++ behind) (hfront : ∀ c ∈ front, endsPath c = false)
    (hbehind : ∀ c ∈ behind.head?, endsPath c = true) :
    ∃ cs a rest, splitScheme? front = some (u.scheme, cs) ∧ cs.dropWhile (isSlash true) ≠ [] ∧
      readAuthority u.scheme (authorityText cs) = .ok (a, rest) ∧ writtenPath text = behindAuthority cs := by
  obtain ⟨scheme, cs', authority, path, rest, hscheme, rfl⟩ := exists_assemble_of_parse h
  replace hs : isSpecialScheme scheme = true := hs
  rw [parse_of_special hscheme hs hf] at h
  have hwritten : writtenPath text = (behindAuthority cs').takeWhile (!endsPath ·) := by
    unfold writtenPath
    rw [hscheme]
    rfl
  have hends : ∀ c ∈ behind.head?, endsAuthority true c = true := fun c hc => endsAuthority_of_endsPath (hbehind c hc)
  have hmarked : ∀ c ∈ behind.head?, Http.endsAuthority c = true := by
    intro c hc
    rcases eq_of_endsPath (hbehind c hc) with rfl | rfl <;> rfl
  -- The scheme, the authority and the path all stand in front of the query and the fragment.
  rw [hclean, splitScheme?_append hmarked] at hscheme
  obtain ⟨⟨scheme, cs⟩, hsplit, heq⟩ := Option.map_eq_some_iff.1 hscheme
  obtain ⟨rfl, rfl⟩ := Prod.mk.inj heq
  have hne : cs.dropWhile (isSlash true) ≠ [] := by
    intro hnil
    rw [readAuthority_behind_nothing hs hnil hbehind] at h
    cases h
  have hpath : ∀ c ∈ behindAuthority cs, endsPath c = false :=
    fun c hc => hfront c (mem_of_splitScheme? hsplit (mem_of_mem_behindAuthority hc))
  rw [behindAuthority_append hne hends, takeWhile_not_append hpath hbehind] at hwritten
  rw [readAuthority_behind_slashes hs hne hends] at h
  cases hauthority : readAuthority scheme (authorityText cs) with
  | error f =>
    rw [hauthority] at h
    cases h
  | ok p => exact ⟨cs, p.1, p.2, hsplit, hne, hauthority, hwritten⟩

/-- A URL of a special scheme is read up to its path, and no more of the path changes what was read before. -/
theorem parse_of_authority {a : Authority} (more : List Char) (hsplit : splitScheme? front = some (scheme, cs))
    (hs : isSpecialScheme scheme = true) (hf : scheme ≠ "file") (hne : cs.dropWhile (isSlash true) ≠ [])
    (ha : readAuthority scheme (authorityText cs) = .ok (a, rest)) (hclean : clean text = front ++ (more ++ behind))
    (hpath : ∀ c ∈ behindAuthority cs ++ more, endsPath c = false) (hmore : ∀ c ∈ more.head?, c = '/')
    (hbehind : ∀ c ∈ behind.head?, endsPath c = true) :
    parse text = .ok (assemble scheme (some a) (.segments (readPath scheme (behindAuthority cs ++ more))) behind) := by
  have hrest : ∀ c ∈ (more ++ behind).head?, c = '/' ∨ c = '?' ∨ c = '#' := by
    cases more with
    | nil => exact fun c hc => .inr (eq_of_endsPath (hbehind c hc))
    | cons c more => exact fun c hc => .inl (hmore c hc)
  have hscheme : splitScheme? (clean text) = some (scheme, cs ++ (more ++ behind)) := by
    rw [hclean, splitScheme?_append, hsplit]
    · rfl
    · intro c hc
      rcases hrest c hc with rfl | rfl | rfl <;> rfl
  rw [parse_of_special hscheme hs hf, readAuthority_behind_slashes hs hne, ha]
  · show Except.ok (assemble scheme (some a) (.segments (readPath scheme (behindAuthority cs ++ (more ++ behind))))
      ((behindAuthority cs ++ (more ++ behind)).dropWhile (!endsPath ·))) = _
    rw [← List.append_assoc, readPath_append hbehind, dropWhile_not_append hpath hbehind]
  · intro c hc
    rcases hrest c hc with rfl | rfl | rfl <;> rfl

end Longer

/-- With one more slash at the end of its path a URL is read as before, but for its path; and as many segments are
left of the path when one slash at the end is taken away. -/
theorem parse_withSlash (h : parse text = .ok u) (hs : isSpecialScheme u.scheme = true) (hf : u.scheme ≠ "file")
    (hpath : writtenPath text = [] ∨ u.path.render.toList.getLast? ≠ some '/') :
    ∃ list list', u.path = .segments list ∧ parse (withSlash text) = .ok { u with path := .segments list' } ∧
      popIfEmpty list' = popIfEmpty list := by
  obtain ⟨front, behind, hclean, hclean', hfront, hbehind⟩ := clean_withSlash text
  obtain ⟨cs, a, rest, hsplit, hne, ha, hwritten⟩ := exists_of_parse h hs hf hclean hfront hbehind
  have hends : ∀ c ∈ behindAuthority cs, endsPath c = false := by
    rw [← hwritten]
    exact endsPath_of_mem_writtenPath
  have hhead : ∀ c ∈ (behindAuthority cs).head?, isSlash true c = true := by
    rw [← hwritten]
    exact head?_writtenPath
  rw [hwritten] at hpath
  -- The URL is read from the text with nothing more of the path, and again with the slash.
  have hsame := parse_of_authority [] hsplit hs hf hne ha hclean (by simpa using hends) (by simp) hbehind
  have hslash : parse (withSlash text) = _ :=
    parse_of_authority ['/'] hsplit hs hf hne ha hclean' (List.forall_mem_append.2 ⟨hends, endsPath_slash⟩)
      (by simp) hbehind
  rw [h, List.append_nil] at hsame
  have hu := Except.ok.inj hsame
  have hlist : u.path = .segments (readPath u.scheme (behindAuthority cs)) := congrArg Url.path hu
  have hreplaced (path : Path) : assemble u.scheme (some a) path behind = { u with path := path } := by
    have heq := congrArg (fun u : Url => { u with path := path }) hu
    exact heq.symm
  rw [hreplaced] at hslash
  refine ⟨_, _, hlist, hslash, popIfEmpty_readPath_concat_slash hs hf hends hhead
    (hpath.imp_right fun hlast hblank => hlast ?_)⟩
  rw [hlist, toList_render_segments]
  exact getLast?_slashed_of_blank hblank

end ServiceBroker.Url
