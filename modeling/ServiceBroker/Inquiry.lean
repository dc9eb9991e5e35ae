/-
Calls for the catalog that run side by side. Each is an inquiry that makes one move at a time. The
inquiries of one client take turns through the client's lock, from the look into the cache to the
storing; different clients have a lock each and know nothing of each other but the cache they share.
-/
import ServiceBroker.Client

namespace ServiceBroker.Inquiry

/-! ## Stages and moves -/

/-- Where an inquiry stands. From `entered` to `leaving` it holds the lock of its client, if the client
keeps the catalog. -/
inductive Stage
  | waiting
  | entered
  | missed
  | asked (request : Http.Request)
  | fetched (catalog : Catalog)
  | leaving (result : Except Error Catalog)
  | finished (result : Except Error Catalog)
  | dropped

/-- What an inquiry does next, with what comes of it. -/
inductive Move
  | lock
  | read (how : Cache.Read)
  | send
  | receive (d : Delivery)
  | store (works : Bool)
  | unlock
  | drop

/-- What an inquiry shares: the cache with everyone, and the lock with the inquiries of its client. -/
structure Room where
  cache : Cache
  locked : Bool

/-- Where an inquiry begins. A client that keeps nothing has nothing to lock. -/
def Stage.first (c : Client) : Stage :=
  if c.keepsCatalog then .waiting else .missed

/-- The stage behind a look into the cache. -/
def Stage.looked (c : Client) : Option Catalog → Stage
  | some catalog => .leaving (.ok (c.prune catalog))
  | none => .missed

/-- The stage behind the building of a request. A request that cannot be built is not sent. -/
def Stage.prepared : Except Error Http.Request → Stage
  | .ok request => .asked request
  | .error e => .leaving (.error e)

/-- The stage behind a delivery. -/
def Stage.delivered : Except Error Catalog → Stage
  | .ok catalog => .fetched catalog
  | .error e => .leaving (.error e)

/-- Makes a move, if it is possible. An inquiry can be dropped while it waits for the lock, for its turn to
send, or for a reply; its lock is free then. -/
def step (c : Client) : Move → Stage → Room → Option (Stage × Room)
  | .lock, .waiting, room => if room.locked then none else some (.entered, { room with locked := true })
  | .read how, .entered, room => some (.looked c (how.find room.cache), room)
  | .send, .missed, room => some (.prepared (c.prepare ⟨.getCatalog, ()⟩), room)
  | .receive d, .asked _, room => some (.delivered (d.answer c.alpha .getCatalog), room)
  | .store works, .fetched catalog, room =>
    some (.leaving (.ok (c.prune catalog)),
      if c.keepsCatalog then { room with cache := room.cache.keep works catalog } else room)
  | .unlock, .leaving result, room =>
    some (.finished result, if c.keepsCatalog then { room with locked := false } else room)
  | .drop, .waiting, room => some (.dropped, room)
  | .drop, .missed, room | .drop, .asked _, room =>
    some (.dropped, if c.keepsCatalog then { room with locked := false } else room)
  | _, _, _ => none

/-- The move that is due at a stage, given how the cache behaves and what becomes of the request. -/
def Stage.due (health : Cache.Health) (d : Delivery) : Stage → Option Move
  | .waiting => some .lock
  | .entered => some (.read health.read)
  | .missed => some .send
  | .asked _ => some (.receive d)
  | .fetched _ => some (.store health.writable)
  | .leaving _ => some .unlock
  | .finished _ | .dropped => none

/-- The result of an inquiry that has one. -/
def Stage.result? : Stage → Option (Except Error Catalog)
  | .finished result => some result
  | _ => none

/-! ## Many inquiries -/

/-- Clients that share a cache, and the inquiries they make. -/
structure Crowd where
  client : Nat → Client
  asker : Nat → Nat

/-- The client that makes an inquiry. -/
def Crowd.clientOf (crowd : Crowd) (inquiry : Nat) : Client :=
  crowd.client (crowd.asker inquiry)

/-- How far all inquiries have come, which clients' locks are held, and the requests that were sent. -/
structure State where
  cache : Cache
  locked : Nat → Bool
  stage : Nat → Stage
  sent : List (Nat × Http.Request)

/-- What can happen: an inquiry makes a move, or the cache is cleared. -/
inductive Event
  | move (inquiry : Nat) (m : Move)
  | clear

/-- A family with one member replaced. -/
def replace (f : Nat → α) (i : Nat) (a : α) : Nat → α :=
  fun j => if j = i then a else f j

@[simp] theorem replace_self (f : Nat → α) (i : Nat) (a : α) : replace f i a i = a := by
  simp [replace]

theorem replace_of_ne (f : Nat → α) {i j : Nat} (a : α) (h : j ≠ i) : replace f i a j = f j := by
  simp [replace, h]

/-- The requests that are out once a stage is reached by sending. -/
def sentBy (inquiry : Nat) : Move → Stage → List (Nat × Http.Request)
  | .send, .asked request => [(inquiry, request)]
  | _, _ => []

namespace State

/-- Nothing has been asked yet. -/
def initial (crowd : Crowd) (cache : Cache) : State :=
  ⟨cache, fun _ => false, fun i => Stage.first (crowd.clientOf i), []⟩

/-- What happens when an event takes place, if it can. -/
def step (crowd : Crowd) (s : State) : Event → Option State
  | .clear => some { s with cache := .empty }
  | .move i m =>
    let owner := crowd.asker i
    (Inquiry.step (crowd.clientOf i) m (s.stage i) ⟨s.cache, s.locked owner⟩).map fun (stage, room) =>
      ⟨room.cache, replace s.locked owner room.locked, replace s.stage i stage, s.sent ++ sentBy i m stage⟩

/-- What comes of events one after another, if each can take place. -/
def run (crowd : Crowd) (s : State) (events : List Event) : Option State :=
  events.foldlM (step crowd) s

/-- An inquiry makes the move that is due, if it can. -/
def advance (crowd : Crowd) (health : Cache.Health) (d : Delivery) (s : State) (inquiry : Nat) : State :=
  match (s.stage inquiry).due health d with
  | some m => (s.step crowd (.move inquiry m)).getD s
  | none => s

/-- The first `n` inquiries advance in turn, `rounds` times. -/
def play (crowd : Crowd) (health : Cache.Health) (d : Delivery) (n : Nat) : (rounds : Nat) → State → State
  | 0, s => s
  | rounds + 1, s => play crowd health d n rounds ((List.range n).foldl (advance crowd health d) s)

end State

/-! ## Clones -/

/-- The most moves that an inquiry makes. -/
def mostMoves : Nat := 6

/-- Inquiries of one client. -/
def Crowd.clones (c : Client) : Crowd := ⟨fun _ => c, fun _ => 0⟩

/-- As many calls for the catalog, made side by side on clones of one client, each of whose requests is
delivered alike. -/
def concurrently (c : Client) (health : Cache.Health) (cache : Cache) (d : Delivery) (n : Nat) :
    List (Except Error Catalog) × List Http.Request × Cache :=
  let crowd := Crowd.clones c
  let s := State.play crowd health d n (mostMoves * n) (.initial crowd cache)
  ((List.range n).filterMap fun i => (s.stage i).result?, s.sent.map (·.2), s.cache)

end ServiceBroker.Inquiry
