/-
What identifiers can do to a request. They are part of its path and of nothing else: two calls that are the
same but for their identifiers send the same request to the same host with the same query, and whatever stands
in an identifier, the path begins with that of the broker and the major version (`confined_perform`). What is
put behind a path can take away what was put there before it, but not what was there at the beginning.
-/
import ServiceBroker.Proofs.Paths
import ServiceBroker.Proofs.Url.Destination

namespace ServiceBroker

namespace Url

/-! ## Staying behind -/

/-- The segments begin with others, and there is at least one more. -/
def Behind (front list : List String) : Prop :=
  ∃ more, more ≠ [] ∧ list = front ++ more

variable {special file : Bool} {front list : List String} {u : Url}

/-- No text takes away what was there before the first one. -/
theorem Behind.push (hf : IsOpen file front) (h : Behind front list) (text : String) :
    Behind front (push special file list text) := by
  by_cases hdots : text = "." ∨ text = ".."
  · rwa [push_of_dots hdots]
  · obtain ⟨h1, h2⟩ := not_or.1 hdots
    obtain ⟨more, hmore, rfl⟩ := h
    have hopen := hf.append more
    have hkeep (rest : List String) :
        (if file then dropLeadingEmpty (front ++ rest) else front ++ rest) = front ++ rest := by
      split_ifs with hfile
      · exact hf.dropLeadingEmpty_append hfile rest
      · rfl
    rw [push_of_ne_dots h1 h2, hopen.opened]
    -- Two dots take away one segment, and leave one that is empty in its place.
    rcases settle_cases file hopen.1 (escaped special (kept text)) with hs | hs | hs <;> rw [hs]
    · rw [List.dropLast_append_of_ne_nil hmore, List.append_assoc, hkeep]
      exact ⟨_, by simp, rfl⟩
    · rw [List.append_assoc, hkeep]
      exact ⟨_, by simp, rfl⟩
    · rw [List.append_assoc, hkeep]
      exact ⟨_, by simp, rfl⟩

theorem Behind.foldl_push (hf : IsOpen file front) (h : Behind front list) (texts : List String) :
    Behind front (texts.foldl (Url.push special file) list) := by
  induction texts generalizing list with
  | nil => exact h
  | cons text texts ih => exact ih (h.push hf text)

/-- If the first text is a name, what is put behind a base stays behind it and the major version. -/
theorem behind_extension (hu : u.Separated) (hp : u.path = .segments list) {name : String} (hn : IsName name)
    (texts : List String) : Behind (u.base ++ ["v2"]) (u.extension (name :: texts)) := by
  have hopen := isOpen_base_append hu hp
  unfold extension
  rw [List.foldl_cons, push_of_isOpen hopen hn]
  exact Behind.foldl_push hopen ⟨_, by simp, rfl⟩ texts

/-! ## The text of a base -/

/-- The text behind which the paths of a broker's resources are: that of its own path less one slash at the
end. Two slashes alone count as one. -/
def footing (u : Url) : List Char :=
  let text := u.path.render.toList
  if text = ['/', '/'] then [] else if text.getLast? = some '/' then text.dropLast else text

theorem slashed_eq_slash_iff : slashed list = ['/'] ↔ list = [""] := by
  constructor
  · intro h
    cases list with
    | nil => cases h
    | cons s list =>
      obtain ⟨hs, hrest⟩ := List.append_eq_nil_iff.1 (List.cons.inj h).2
      cases list with
      | nil => rw [String.toList_eq_nil_iff.1 hs]
      | cons s' list => cases hrest
  · rintro rfl
    rfl

/-- One slash at the end of a path is taken away, unless it is all there is. -/
theorem slashed_popIfEmpty (hl : Segmented list) :
    slashed (popIfEmpty list) =
      if slashed list ≠ ['/'] ∧ (slashed list).getLast? = some '/' then (slashed list).dropLast else slashed list := by
  rcases List.eq_nil_or_concat list with rfl | ⟨rest, last, rfl⟩
  · rfl
  rw [List.concat_eq_append] at hl ⊢
  by_cases hlast : last = ""
  · subst hlast
    have hend : slashed (rest ++ [""]) = slashed rest ++ ['/'] := by simp
    by_cases hrest : rest = []
    · subst hrest
      rfl
    · have hmore : slashed rest ++ ['/'] ≠ ['/'] := by
        obtain ⟨first, more, rfl⟩ := List.exists_cons_of_ne_nil hrest
        simp
      rw [popIfEmpty_append_blank hrest, hend, List.getLast?_concat, List.dropLast_concat, if_pos ⟨hmore, rfl⟩]
  · have hend : (slashed (rest ++ [last])).getLast? ≠ some '/' := by
      have hne : last.toList ≠ [] := fun h => hlast (String.toList_eq_nil_iff.1 h)
      have hplain := (Segmented.append_iff.1 hl).2 last (List.mem_singleton_self _)
      rw [slashed_append, slashed_cons, slashed_nil, List.append_nil, List.getLast?_append_cons,
        List.getLast?_cons_of_ne_nil hne]
      intro h
      exact (hplain.ne_of_mem (List.mem_of_getLast? h)).1 rfl
    rw [popIfEmpty_of_getLast? (by simpa using hlast), if_neg fun h => hend h.2]

theorem slashed_opened (list : List String) :
    slashed (opened list) = if slashed list = ['/'] then [] else slashed list := by
  unfold opened
  by_cases h : list = [""]
  · subst h
    rfl
  · rw [if_neg (by simpa using h), if_neg (slashed_eq_slash_iff.not.2 h)]

theorem slashed_base (hu : u.Separated) (hp : u.path = .segments list) : slashed u.base = u.footing := by
  have htext : u.path.render.toList = slashed list := by rw [hp, toList_render_segments]
  have hbase : u.base = opened (popIfEmpty list) := by rw [base, hp]
  have hpop := slashed_popIfEmpty (hu.segments list hp)
  unfold footing
  dsimp only
  rw [htext, hbase, slashed_opened]
  generalize slashed list = text at hpop ⊢
  by_cases hlast : text.getLast? = some '/'
  · by_cases hroot : text = ['/']
    · rw [if_neg fun h => h.1 hroot] at hpop
      rw [hpop, hroot]
      rfl
    · -- One slash is left of two, and no segment of a path that is one slash.
      obtain ⟨front, rfl⟩ := List.getLast?_eq_some_iff.1 hlast
      have htwo : front = ['/'] ↔ front ++ ['/'] = ['/'] ++ ['/'] := List.append_left_inj _ |>.symm
      rw [if_pos ⟨hroot, hlast⟩, List.dropLast_concat] at hpop
      rw [hpop, if_pos hlast, List.dropLast_concat]
      exact ite_congr (propext htwo) (fun _ => rfl) fun _ => rfl
  · have hroot : text ≠ ['/'] := by
      rintro rfl
      exact hlast rfl
    have htwo : text ≠ ['/', '/'] := by
      rintro rfl
      exact hlast rfl
    rw [if_neg fun h => hlast h.2] at hpop
    rw [hpop, if_neg hroot, if_neg htwo, if_neg hlast]

end Url

namespace Call

/-! ## Without identifiers -/

/-- A call without its identifiers. -/
def anonymous : Call → Call
  | ⟨.provisionInstance, r⟩ => ⟨.provisionInstance, { r with instanceId := "" }⟩
  | ⟨.updateInstance, r⟩ => ⟨.updateInstance, { r with instanceId := "" }⟩
  | ⟨.deprovisionInstance, r⟩ => ⟨.deprovisionInstance, { r with instanceId := "" }⟩
  | ⟨.getInstance, r⟩ => ⟨.getInstance, { r with instanceId := "" }⟩
  | ⟨.getOperation, r⟩ => ⟨.getOperation, { r with instanceId := "", bindingId := none }⟩
  | ⟨.bind, r⟩ => ⟨.bind, { r with instanceId := "", bindingId := "" }⟩
  | ⟨.unbind, r⟩ => ⟨.unbind, { r with instanceId := "", bindingId := "" }⟩
  | ⟨.getBinding, r⟩ => ⟨.getBinding, { r with instanceId := "", bindingId := "" }⟩
  | call => call

variable {call call' : Call}

theorem endpoint_anonymous (call : Call) : call.anonymous.endpoint = call.endpoint := by
  obtain ⟨endpoint, r⟩ := call
  cases endpoint <;> rfl

/-- Identifiers are found among the segments only. -/
theorem draft_anonymous (healthEndpoint : Option String) (call : Call) :
    call.draft healthEndpoint =
      { call.anonymous.draft healthEndpoint with segments := (call.draft healthEndpoint).segments } := by
  obtain ⟨endpoint, r⟩ := call
  cases endpoint <;> rfl

theorem eq_of_anonymous_checkAvailability (h : call.anonymous = call'.anonymous)
    (he : call.endpoint = .checkAvailability) : call = call' := by
  have he' : call'.endpoint = .checkAvailability := by
    rw [← endpoint_anonymous, ← h, endpoint_anonymous, he]
  obtain ⟨endpoint, r⟩ := call
  obtain ⟨endpoint', r'⟩ := call'
  subst he
  subst he'
  rfl

theorem exists_places (call : Call) : ∃ name texts, Url.IsName name ∧ call.places id = name :: texts := by
  unfold places
  split
  · split_ifs
    · exact ⟨_, _, by decide, rfl⟩
    · exact ⟨_, _, by decide, rfl⟩
  · exact ⟨_, _, by decide, rfl⟩
  · exact ⟨_, _, by decide, rfl⟩

end Call

namespace Client

variable {c : Client} {call call' : Call} {request request' : Http.Request}

/-! ## Destinations -/

/-- A request goes to the scheme and the authority of the client's broker, with the query of the call behind the
broker's own. -/
theorem destination_prepare (hu : c.url.Separated) (hq : c.url.Unhashed) (he : call.endpoint ≠ .checkAvailability)
    (h : c.prepare call = .ok request) :
    ∃ a, c.url.authority = some a ∧ request.destination = .ofParts c.url.scheme a.render.toList request.path
      (c.url.withPairs (call.draft c.healthEndpoint).query).query := by
  obtain ⟨list, hp⟩ := c.exists_segments
  have ht := target_prepare he h
  have hpath := Url.isPath_extension hu hp (call.places id)
  have hu' := (hu.extend ("v2" :: call.places id)).withPairs (call.draft c.healthEndpoint).query
  have hq' := hq.withPairs (call.draft c.healthEndpoint).query
  rw [Url.extend_withPairs hu hp] at ht hu'
  obtain ⟨a, ha, hr⟩ := Url.destination_of_target hu' hq' rfl ht
  refine ⟨a, ha.symm.trans (Url.withPairs_authority ..) |>.symm, ?_⟩
  rw [hr, path_prepare hu he h, Url.withPairs_scheme, Url.asked_of_ne_nil hpath.1]

/-- The query of a request says what the broker's own says, and then what the call adds. -/
theorem pairs_prepare (hu : c.url.Separated) (hq : c.url.Unhashed) (he : call.endpoint ≠ .checkAvailability)
    (h : c.prepare call = .ok request) :
    request.pairs = c.url.pairs ++ (call.draft c.healthEndpoint).query.map Percent.pairBytes := by
  obtain ⟨a, _, hdest⟩ := destination_prepare hu hq he h
  have hquery : request.query? = (c.url.withPairs (call.draft c.healthEndpoint).query).query :=
    congrArg Http.Destination.query hdest
  rw [← Url.pairs_withPairs]
  exact Url.pairs_of_query? hquery

/-- Whatever the identifiers are, the path begins with that of the broker and the major version. -/
theorem path_prepare_prefix (hu : c.url.Separated) (he : call.endpoint ≠ .checkAvailability)
    (h : c.prepare call = .ok request) : c.url.footing ++ "/v2/".toList <+: request.path.toList := by
  obtain ⟨list, hp⟩ := c.exists_segments
  obtain ⟨name, texts, hn, hplaces⟩ := call.exists_places
  obtain ⟨more, hmore, hbehind⟩ := Url.behind_extension hu hp hn texts
  obtain ⟨s, rest, rfl⟩ := List.exists_cons_of_ne_nil hmore
  rw [path_prepare hu he h, hplaces, hbehind, Url.toList_render_segments, ← Url.slashed_base hu hp]
  exact ⟨s.toList ++ Url.slashed rest, by simp⟩

theorem unhashed_ofConfig {config : Config} (h : ofConfig config = .ok c) : c.url.Unhashed :=
  Url.unhashed_parse (parse_ofConfig h)

/-! ## Confinement -/

/-- Identifiers are confined to the path. Two calls that are the same without them and are both sent differ in
the paths of their requests only: method, headers, body, and every other part of the destination are the same.
All requests but those for the health of the broker go to its scheme and authority, and to a path that begins with
that of the broker and the major version. -/
theorem confined_perform {config : Config} (hc : ofConfig config = .ok c) (health health' : Cache.Health)
    (cache cache' : Cache) (call call' : Call) (d d' : Delivery) (request request' : Http.Request)
    (hcall : call.anonymous = call'.anonymous) (hs : request ∈ (c.perform health cache call d).1.sent)
    (hs' : request' ∈ (c.perform health' cache' call' d').1.sent) :
    request'.method = request.method ∧ request'.headers = request.headers ∧ request'.body = request.body ∧
    request'.destination = { request.destination with path := request'.path } ∧
    (call.endpoint ≠ .checkAvailability → ∀ r ∈ [request, request'],
      (∃ a, c.url.authority = some a ∧ r.destination = .ofParts c.url.scheme a.render.toList r.path
        (c.url.withPairs (call.draft c.healthEndpoint).query).query) ∧
      c.url.footing ++ "/v2/".toList <+: r.path.toList) := by
  have hu := separated_ofConfig hc
  have hq := unhashed_ofConfig hc
  have hp := prepare_of_mem_sent hs
  have hp' := prepare_of_mem_sent hs'
  by_cases he : call.endpoint = .checkAvailability
  · obtain rfl := Call.eq_of_anonymous_checkAvailability hcall he
    obtain rfl := Except.ok.inj (hp.symm.trans hp')
    exact ⟨rfl, rfl, rfl, request.destination_path.symm, fun h => absurd he h⟩
  · have he' : call'.endpoint ≠ .checkAvailability := by
      rwa [← Call.endpoint_anonymous, ← hcall, Call.endpoint_anonymous]
    -- Everything but the segments is drafted from the call without its identifiers, which is the same call twice.
    have hdraft := call.draft_anonymous c.healthEndpoint
    have hdraft' := call'.draft_anonymous c.healthEndpoint
    rw [← hcall] at hdraft'
    obtain ⟨a, ha, hdest⟩ := destination_prepare hu hq he hp
    obtain ⟨a', ha', hdest'⟩ := destination_prepare hu hq he' hp'
    obtain rfl := Option.some.inj (ha.symm.trans ha')
    have hrequest := ((prepare_eq_ok_iff c call request).1 hp).2.eq
    have hrequest' := ((prepare_eq_ok_iff c call' request').1 hp').2.eq
    refine ⟨?_, ?_, ?_, ?_, fun _ => ?_⟩
    · rw [hrequest, hrequest', hdraft, hdraft']
    · rw [hrequest, hrequest', hdraft, hdraft']
      rfl
    · rw [hrequest, hrequest', hdraft, hdraft']
    · rw [hdest, hdest', Http.Destination.ofParts_path, hdraft, hdraft']
    · simp only [List.forall_mem_cons, List.not_mem_nil, false_implies, implies_true, and_true]
      refine ⟨⟨⟨a, ha, hdest⟩, path_prepare_prefix hu he hp⟩, ⟨a, ha, ?_⟩, path_prepare_prefix hu he' hp'⟩
      rw [hdest', hdraft, hdraft']

/-- An identifier that reads like a way to another host and another plan stays one segment of the path. -/
theorem confined_perform_hostile :
    (Call.removing "../../@[::2]?plan_id=q#").anonymous = (Call.removing "a").anonymous ∧
    Http.Request.loopback .delete "..%2F..%2F@[::2]%3Fplan_id=q%23?service_id=s&plan_id=p" ∈
      (loopback.perform ⟨.sound, true⟩ .empty (.removing "../../@[::2]?plan_id=q#") .blank).1.sent ∧
    Http.Request.loopback .delete "a?service_id=s&plan_id=p" ∈
      (loopback.perform ⟨.sound, true⟩ .empty (.removing "a") .blank).1.sent ∧
    (Http.Request.loopback .delete "a?service_id=s&plan_id=p").destination =
      { (Http.Request.loopback .delete "..%2F..%2F@[::2]%3Fplan_id=q%23?service_id=s&plan_id=p").destination with
        path := (Http.Request.loopback .delete "a?service_id=s&plan_id=p").path } ∧
    loopback.url.footing ++ "/v2/".toList <+:
      (Http.Request.loopback .delete "..%2F..%2F@[::2]%3Fplan_id=q%23?service_id=s&plan_id=p").path.toList := by
  have hcall : (Call.removing "../../@[::2]?plan_id=q#").anonymous = (Call.removing "a").anonymous := by
    simp only [Call.removing, Call.anonymous]
  have hs : Http.Request.loopback .delete "..%2F..%2F@[::2]%3Fplan_id=q%23?service_id=s&plan_id=p" ∈
      (loopback.perform ⟨.sound, true⟩ .empty (.removing "../../@[::2]?plan_id=q#") .blank).1.sent := by
    decide +kernel
  have hs' : Http.Request.loopback .delete "a?service_id=s&plan_id=p" ∈
      (loopback.perform ⟨.sound, true⟩ .empty (.removing "a") .blank).1.sent := by decide +kernel
  obtain ⟨_, _, _, hdestination, hpaths⟩ := confined_perform ofConfig_loopback _ _ _ _ _ _ _ _ _ _ hcall hs hs'
  exact ⟨hcall, hs, hs', hdestination, (hpaths (by decide) _ (List.mem_cons_self ..)).2⟩

/-- The client of a broker whose path is two slashes. -/
def twoSlashes : Client :=
  { loopback with url := ⟨"http", some ⟨"", none, "[::1]", none⟩, .segments ["", ""], none, none⟩, isBase := rfl }

/-- Of a path of two slashes nothing is left, though it is more than one slash at its end. -/
theorem sent_finding_twoSlashes :
    (ofConfig (.ofUrl "http://[::1]//")).toOption = some twoSlashes ∧ twoSlashes.url.path.render = "//" ∧
    (twoSlashes.perform ⟨.sound, true⟩ .empty (.finding "a") .blank).1.sent =
      [⟨.get, "http://[::1]/v2/service_instances/a",
        [("x-broker-api-version", "2.14"), ("accept", "application/json")], ""⟩] ∧
    ¬ ("//".toList.dropLast ++ "/v2/".toList <+: "/v2/service_instances/a".toList) :=
  ⟨by decide +kernel, by decide, by decide +kernel, by decide⟩

end Client

end ServiceBroker
