/-
Caches are transparent. Clients ask for the catalog one after another; some share a cache, every read and write may
fail, and a cache may be cleared at any time. While the broker answers alike, a cache holds nothing but the catalog of
this answer, fetched by a client that could ask for it (`fetched_of_get?`). So a client is told what it would be told
without a cache (`told_transparent`). Only a client whose own request cannot be built is told more: the cache is looked
into before the request is built.
-/
import Mathlib.Data.List.Induction
import ServiceBroker.Proofs.Inquiry.Isolation
import ServiceBroker.Proofs.Paths

namespace ServiceBroker

/-- Clients, and the cache in which each keeps the catalog. Clients may share a cache. -/
structure Sharing where
  client : Nat → Client
  cacheOf : Nat → Nat

/-- A client asks for the catalog while its cache is in some health, or a cache is cleared. -/
inductive Sharing.Turn
  | ask (k : Nat) (health : Cache.Health)
  | clear (place : Nat)

/-- The same client without a cache. -/
def Client.uncached (c : Client) : Client :=
  { c with keepsCatalog := false }

/-- Asks for the catalog. -/
abbrev Call.catalog : Call := ⟨.getCatalog, ()⟩

namespace Client

variable {c : Client} {health : Cache.Health} {cache : Cache} {d : Delivery} {catalog : Catalog}

theorem result_of_not_findsKept (h : ¬ c.FindsKept health cache .catalog) :
    (c.perform health cache .catalog d).1.result = (c.exchange .catalog d).result.map c.prune := by
  show (c.getCatalog health cache d).1.result = _
  rw [getCatalog_of_not_find h]

theorem result_uncached :
    (c.uncached.perform health cache .catalog d).1.result = (c.exchange .catalog d).result.map c.prune := by
  have hmiss : ¬ c.uncached.FindsKept health cache .catalog := by
    rintro ⟨_, hkeeps, _⟩
    cases hkeeps
  have hexchange : c.uncached.exchange .catalog d = c.exchange .catalog d := by
    have hprepare : c.uncached.prepare .catalog = c.prepare .catalog := rfl
    have halpha : c.uncached.alpha = c.alpha := rfl
    unfold exchange
    rw [hprepare, halpha]
  rw [result_of_not_findsKept hmiss, hexchange]
  rfl

/-- A client that can ask is told the catalog that the broker answers with. -/
theorem result_uncached_of_brings (hd : d.Brings catalog) {request : Http.Request}
    (hp : c.prepare .catalog = .ok request) :
    (c.uncached.perform health cache .catalog d).1.result = .ok (c.prune catalog) := by
  have hanswer : d.answer c.alpha .getCatalog = .ok catalog := answer_getCatalog_eq_ok_iff.2 hd
  rw [result_uncached]
  unfold exchange
  rw [hp]
  show (d.answer c.alpha .getCatalog).map c.prune = _
  rw [hanswer]
  rfl

theorem result_uncached_of_error {e : Error} (hp : c.prepare .catalog = .error e) :
    (c.uncached.perform health cache .catalog d).1.result = .error e := by
  rw [result_uncached]
  unfold exchange
  rw [hp]
  rfl

/-- Nothing is checked before the catalog is asked for, so it can only be that its request cannot be built. -/
theorem prepare_catalog_cases (c : Client) :
    (∃ request, c.prepare .catalog = .ok request) ∨
      ∃ fault, c.prepare .catalog = .error (.invalidRequest (.unbuildable fault)) := by
  rw [prepare_getCatalog]
  cases c.address (Call.draft none .catalog) with
  | ok request => exact .inl ⟨request, rfl⟩
  | error fault => exact .inr ⟨fault, rfl⟩

theorem exchange_eq_ok (h : (c.exchange .catalog d).result = .ok catalog) :
    d.Brings catalog ∧ ∃ request, c.prepare .catalog = .ok request := by
  unfold exchange at h
  cases hp : c.prepare .catalog with
  | error e => rw [hp] at h; cases h
  | ok request =>
    rw [hp] at h
    exact ⟨answer_getCatalog_eq_ok_iff.1 h, request, rfl⟩

/-- A call leaves the cache alone or stores what its own request brought. -/
theorem cache_perform (c : Client) (health : Cache.Health) (cache : Cache) (d : Delivery) :
    (c.perform health cache .catalog d).2 = cache ∨
      ∃ catalog request, d.Brings catalog ∧ c.prepare .catalog = .ok request ∧
        (c.perform health cache .catalog d).2 = cache.set Cache.catalogKey catalog := by
  show (c.getCatalog health cache d).2 = cache ∨ ∃ catalog request, d.Brings catalog ∧ _ ∧
    (c.getCatalog health cache d).2 = cache.set Cache.catalogKey catalog
  unfold getCatalog
  split
  · exact .inl rfl
  · dsimp only
    cases hfetch : (c.exchange .catalog d).result with
    | error e => exact .inl rfl
    | ok catalog =>
      obtain ⟨hd, request, hp⟩ := exchange_eq_ok hfetch
      -- what was fetched is stored if the client keeps anything and the write works
      unfold Cache.keep
      dsimp only
      split
      · split
        · exact .inr ⟨catalog, request, hd, hp, rfl⟩
        · exact .inl rfl
      · exact .inl rfl

end Client

namespace Sharing

open Inquiry (replace replace_self replace_of_ne)

variable (p : Sharing) (d : Delivery)

/-- What comes of a client's call for the catalog: what it is told, and its cache afterwards. -/
def ask (caches : Nat → Cache) (k : Nat) (health : Cache.Health) : Exchange Catalog × Cache :=
  (p.client k).perform health (caches (p.cacheOf k)) .catalog d

/-- The caches behind a turn. -/
def turn (caches : Nat → Cache) : Turn → Nat → Cache
  | .ask k health => replace caches (p.cacheOf k) (p.ask d caches k health).2
  | .clear place => replace caches place .empty

/-- The caches behind turns. At first all are empty. -/
def caches (turns : List Turn) : Nat → Cache :=
  turns.foldl (p.turn d) fun _ => .empty

/-- What a client is told behind earlier turns. -/
def told (before : List Turn) (k : Nat) (health : Cache.Health) : Exchange Catalog :=
  (p.ask d (p.caches d before) k health).1

/-- The broker answers with a catalog, and a client with a certain cache asked for it and could be answered. -/
def Fetched (turns : List Turn) (place : Nat) (catalog : Catalog) : Prop :=
  d.Brings catalog ∧ ∃ k health request, .ask k health ∈ turns ∧ p.cacheOf k = place ∧
    (p.client k).prepare .catalog = .ok request

variable {p d} {turns before : List Turn} {t : Turn} {place k : Nat} {key : String} {catalog : Catalog}

theorem caches_concat (turns : List Turn) (t : Turn) : p.caches d (turns ++ [t]) = p.turn d (p.caches d turns) t := by
  unfold caches
  rw [List.foldl_append]
  rfl

theorem Fetched.concat (h : p.Fetched d turns place catalog) (t : Turn) : p.Fetched d (turns ++ [t]) place catalog := by
  obtain ⟨hd, k, health, request, hk, hplace, hp⟩ := h
  exact ⟨hd, k, health, request, List.mem_append_left _ hk, hplace, hp⟩

/-- Whatever a turn leaves in a cache was there before, or was fetched in this turn. -/
theorem get?_turn (h : (p.turn d (p.caches d turns) t place).get? key = some catalog) :
    (p.caches d turns place).get? key = some catalog ∨ p.Fetched d (turns ++ [t]) place catalog := by
  cases t with
  | clear other =>
    by_cases hp : place = other
    · rw [turn, hp, replace_self] at h
      cases h
    · rw [turn, replace_of_ne _ _ hp] at h
      exact .inl h
  | ask k health =>
    by_cases hplace : place = p.cacheOf k
    · subst hplace
      rw [turn, replace_self] at h
      rcases (p.client k).cache_perform health (p.caches d turns (p.cacheOf k)) d with
        hsame | ⟨fetched, request, hd, hp, hset⟩
      · rw [ask, hsame] at h
        exact .inl h
      · rw [ask, hset] at h
        by_cases hkey : key = Cache.catalogKey
        · rw [hkey, Cache.get?_set_self] at h
          cases h
          exact .inr ⟨hd, k, health, request, by simp, rfl, hp⟩
        · rw [Cache.get?_set_of_ne _ _ hkey] at h
          exact .inl h
    · rw [turn, replace_of_ne _ _ hplace] at h
      exact .inl h

theorem fetched_of_get? (h : (p.caches d turns place).get? key = some catalog) : p.Fetched d turns place catalog := by
  induction turns using List.reverseRecOn with
  | nil => cases h
  | append_singleton turns t ih =>
    rw [caches_concat] at h
    rcases get?_turn h with hbefore | hnow
    · exact (ih hbefore).concat t
    · exact hnow

/-- A client that finds a catalog in its cache is told what was fetched for this cache. -/
theorem told_of_findsKept {health : Cache.Health}
    (h : (p.client k).FindsKept health (p.caches d before (p.cacheOf k)) .catalog) :
    ∃ catalog, p.Fetched d before (p.cacheOf k) catalog ∧
      p.told d before k health = ⟨.ok ((p.client k).prune catalog), []⟩ := by
  obtain ⟨_, hkeeps, catalog, hfind⟩ := h
  refine ⟨catalog, fetched_of_get? (Inquiry.get?_of_find hfind), ?_⟩
  show ((p.client k).getCatalog health (p.caches d before (p.cacheOf k)) d).1 = _
  rw [Client.getCatalog_of_find hkeeps hfind]

/-- A client is told what it would be told without a cache, however reads and writes go; a catalog that it can ask for
and that the broker answers with never gets lost. The exception is a client that cannot ask, because its request cannot
be built: it may be told, without a request, what was fetched for a client with the same cache. -/
theorem told_transparent (p : Sharing) (d : Delivery) (before : List Turn) (k : Nat) (health idle : Cache.Health)
    (cache : Cache) :
    ((p.told d before k health).result = ((p.client k).uncached.perform idle cache .catalog d).1.result ∨
      ∃ fault catalog, (p.client k).prepare .catalog = .error (.invalidRequest (.unbuildable fault)) ∧
        ((p.client k).uncached.perform idle cache .catalog d).1.result =
          .error (.invalidRequest (.unbuildable fault)) ∧
        (p.client k).keepsCatalog = true ∧ p.Fetched d before (p.cacheOf k) catalog ∧
        p.told d before k health = ⟨.ok ((p.client k).prune catalog), []⟩) ∧
    ∀ catalog request, d.Brings catalog → (p.client k).prepare .catalog = .ok request →
      (p.told d before k health).result = .ok ((p.client k).prune catalog) := by
  by_cases hfinds : (p.client k).FindsKept health (p.caches d before (p.cacheOf k)) .catalog
  · obtain ⟨kept, hfetched, htold⟩ := told_of_findsKept hfinds
    rcases (p.client k).prepare_catalog_cases with ⟨request, hp⟩ | ⟨fault, hp⟩
    · -- The client would have been told the same catalog, because the broker has no other.
      have hsame : (p.told d before k health).result =
          ((p.client k).uncached.perform idle cache .catalog d).1.result := by
        rw [htold, Client.result_uncached_of_brings hfetched.1 hp]
      refine ⟨.inl hsame, ?_⟩
      intro catalog request hd hp
      rw [hsame, Client.result_uncached_of_brings hd hp]
    · constructor
      · exact .inr ⟨fault, kept, hp, Client.result_uncached_of_error hp, hfinds.2.1, hfetched, htold⟩
      · intro catalog request _ hok
        rw [hp] at hok
        cases hok
  · have hsame : (p.told d before k health).result =
        ((p.client k).uncached.perform idle cache .catalog d).1.result := by
      rw [Client.result_uncached]
      exact Client.result_of_not_findsKept hfinds
    refine ⟨.inl hsame, ?_⟩
    intro catalog request hd hp
    rw [hsame, Client.result_uncached_of_brings hd hp]

/-! ## Two clients with one cache -/

/-- An old client and a new one with alpha features. -/
def oldAndNew : Sharing where
  client
    | 0 => .keeper .v2_11 false
    | _ => .keeper .v2_14 true
  cacheOf _ := 0

/-- The old client cannot read the cache but fills it, and the new client asks for nothing. It is told what the broker
would have told it. -/
theorem told_transparent_newAfterOld :
    (oldAndNew.told .retrievable [.ask 0 ⟨.failing, true⟩] 1 ⟨.sound, true⟩).sent = [] ∧
    (oldAndNew.told .retrievable [.ask 0 ⟨.failing, true⟩] 1 ⟨.sound, true⟩).result =
      .ok ((oldAndNew.client 1).prune ⟨[.retrievable (some true)]⟩) := by
  have hbrings : Delivery.retrievable.Brings ⟨[.retrievable (some true)]⟩ :=
    ⟨_, rfl, rfl, toOption_eq_some_iff.1 (by decide +kernel)⟩
  have hbuilt : ((oldAndNew.client 1).prepare .catalog).toOption.isSome = true := by decide +kernel
  obtain ⟨request, hrequest⟩ := Option.isSome_iff_exists.1 hbuilt
  obtain ⟨_, hkept⟩ := told_transparent oldAndNew .retrievable [.ask 0 ⟨.failing, true⟩] 1 ⟨.sound, true⟩
    ⟨.sound, true⟩ .empty
  exact ⟨by decide +kernel, hkept _ request hbrings (toOption_eq_some_iff.1 hrequest)⟩

/-- How to reach a broker on the same machine with a token that has a line feed in it. -/
def brokenToken : Config :=
  { Config.ofUrl "http://[::1]/osb/" with auth := some (.bearer "a\nb"), keepsCatalog := true }

/-- A client that can ask for the catalog and one whose token no header can carry. -/
def unsendable : Sharing where
  client
    | 0 => { Client.loopback with keepsCatalog := true }
    | _ => { Client.loopback with auth := some (.bearer "a\nb"), keepsCatalog := true }
  cacheOf _ := 0

/-- The second client is told the catalog that the first one fetched. Without the cache it is told that its request is
invalid. -/
theorem told_unsendable :
    Client.ofConfig brokenToken = .ok (unsendable.client 1) ∧
    (unsendable.told .blank [.ask 0 ⟨.sound, true⟩] 1 ⟨.sound, true⟩).result = .ok ⟨[]⟩ ∧
    ((unsendable.client 1).uncached.perform ⟨.sound, true⟩ .empty .catalog .blank).1.result =
      .error (.invalidRequest (.unbuildable .header)) := by
  refine ⟨toOption_eq_some_iff.1 ?_, toOption_eq_some_iff.1 ?_, rfl⟩
  · decide +kernel
  · decide +kernel

end Sharing

end ServiceBroker
