import MiniLlm.SchedulerSteps

/-!
# The scheduler as a board

For what the queues hold, their order does not matter: a board has the
allocator, the requests with their places, the responses pushed so far and
the ids popped from the request queue.
Every step of the scheduler moves one request on the board, or nothing, so an
invariant needs one case for each kind of move.
-/

set_option autoImplicit false

namespace MiniLlm

open Scheduler

variable {A B : Type*}

def Place.all : List Place :=
  [.request,.waitingPrefill,.prefill,.decode,.finish,.deferredPrefill,.deferredDecode,.cancel,
    .swapOut,.decodeBatch,.nextDecode,.prefillBatch]

theorem Place.mem_all (p : Place) : p ∈ Place.all := by cases p <;> decide

theorem Place.all_nodup : Place.all.Nodup := by decide

def Scheduler.held (s : Scheduler A B) : Multiset (Place × Request) :=
  (Place.all.flatMap fun p => (s.queues p).map (Prod.mk p) : List (Place × Request))

theorem mem_held (s : Scheduler A B) (p : Place) (req : Request) :
    (p,req) ∈ s.held ↔ req ∈ s.queues p := by
  simp [Scheduler.held, Place.mem_all]

theorem flat_map_update {κ β : Type*} [DecidableEq κ] (keys : List κ) (f : κ → List β) (k : κ)
    (xs : List β) (hn : keys.Nodup) (hk : k ∈ keys) :
    ((keys.flatMap (Function.update f k xs) : List β) : Multiset β)+(f k : Multiset β) =
      (keys.flatMap f : List β)+(xs : Multiset β) := by
  induction keys with
  | nil => simp at hk
  | cons first keys ih =>
    obtain ⟨hfirst,hn⟩ := List.nodup_cons.mp hn
    simp only [List.flatMap_cons, ← Multiset.coe_add]
    by_cases h : first = k
    · subst h
      have hsame : keys.flatMap (Function.update f first xs) = keys.flatMap f := by
        refine List.flatMap_congr fun j hj => Function.update_of_ne ?_ _ _
        rintro rfl
        exact hfirst hj
      rw [hsame, Function.update_self]
      abel
    · have hrest := ih hn ((List.mem_cons.mp hk).resolve_left (Ne.symm h))
      rw [Function.update_of_ne h, add_assoc, hrest, add_assoc]

theorem held_set_queue (s : Scheduler A B) (q : Place) (reqs : List Request) :
    (s.setQueue q reqs).held+((s.queues q).map (Prod.mk q) : Multiset (Place × Request)) =
      s.held+(reqs.map (Prod.mk q) : Multiset (Place × Request)) := by
  have h := flat_map_update Place.all (fun p => (s.queues p).map (Prod.mk p)) q
    (reqs.map (Prod.mk q)) Place.all_nodup q.mem_all
  refine Eq.trans ?_ h
  refine congrArg (fun xs : List (Place × Request) =>
    (xs : Multiset (Place × Request))+((s.queues q).map (Prod.mk q) : List _)) ?_
  refine List.flatMap_congr fun p _ => ?_
  rw [set_queue_queues]
  by_cases hp : p = q
  · subst hp
    simp
  · simp [hp]

theorem held_push_back (s : Scheduler A B) (q : Place) (req : Request) :
    (s.pushBack q req).held = (q,req) ::ₘ s.held := by
  have h := held_set_queue s q (s.queues q++[req])
  rw [List.map_append, ← Multiset.coe_add, ← add_assoc, add_right_comm] at h
  have hcancel := add_right_cancel h
  rw [Scheduler.pushBack, hcancel, ← Multiset.singleton_add, add_comm]
  rfl

theorem held_push_front (s : Scheduler A B) (q : Place) (req : Request) :
    (s.pushFront q req).held = (q,req) ::ₘ s.held := by
  have h := held_set_queue s q (req::s.queues q)
  rw [List.map_cons, ← Multiset.cons_coe, Multiset.add_cons, ← Multiset.cons_add] at h
  exact add_right_cancel h

theorem held_take (s : Scheduler A B) (q : Place) (before after : List Request) (req : Request)
    (hq : s.queues q = before++req::after) :
    s.held = (q,req) ::ₘ (s.setQueue q (before++after)).held := by
  have h := held_set_queue s q (before++after)
  have hperm : ((s.queues q).map (Prod.mk q) : Multiset (Place × Request)) =
      (q,req) ::ₘ ((before++after).map (Prod.mk q) : Multiset (Place × Request)) := by
    rw [hq, Multiset.cons_coe, Multiset.coe_eq_coe, ← List.map_cons]
    exact List.perm_middle.map _
  rw [hperm, Multiset.add_cons, ← Multiset.cons_add] at h
  exact (add_right_cancel h).symm

theorem held_pop_front {s t : Scheduler A B} {q : Place} {req : Request}
    (h : s.popFront q = some (req,t)) : s.held = (q,req) ::ₘ t.held := by
  obtain ⟨hq,ht⟩ := pop_front_some h
  have htake := held_take s q [] (t.queues q) req hq
  rwa [List.nil_append, ← ht] at htake

theorem distinct_rest {p : Place} {r : Request} {rest : Multiset (Place × Request)}
    (h : (((p,r) ::ₘ rest).map (fun x => x.2.requestId)).Nodup) :
    ∀ x ∈ rest, x.2.requestId ≠ r.requestId := by
  rw [Multiset.map_cons, Multiset.nodup_cons] at h
  exact fun x hx hid => h.1 (Multiset.mem_map.mpr ⟨x,hx,hid⟩)

theorem distinct_cons {p : Place} {r : Request} {rest : Multiset (Place × Request)}
    (h : (rest.map (fun x => x.2.requestId)).Nodup)
    (fresh : ∀ x ∈ rest, x.2.requestId ≠ r.requestId) :
    (((p,r) ::ₘ rest).map (fun x => x.2.requestId)).Nodup := by
  rw [Multiset.map_cons, Multiset.nodup_cons]
  refine ⟨fun hm => ?_,h⟩
  obtain ⟨x,hx,hid⟩ := Multiset.mem_map.mp hm
  exact fresh x hx hid

structure Board (A : Type*) where
  kvAllocator : A
  requests : Multiset (Place × Request)
  responses : List Response
  popped : List UInt64

def Scheduler.board (s : Scheduler A B) : Board A := ⟨s.kvAllocator,s.held,s.responses,s.popped⟩

theorem started_board (a : A) (b : B) (async : Bool) :
    (started a b async).board = ⟨a,0,[],[]⟩ := rfl

/-- The ids popped from the request queue when a request leaves the place. -/
def entered : Place → Request → List UInt64
  | .request, r => [r.requestId]
  | _, _ => []

def answered : Place → ℕ
  | .request | .waitingPrefill | .deferredPrefill | .prefill | .prefillBatch => 0
  | .decode | .nextDecode | .decodeBatch | .deferredDecode | .swapOut | .finish | .cancel => 1

/-- The two response loops: the batch, what they do to the caches, and where unfinished
requests go. -/
inductive Serving : Place → (Request → PagedKVCache → PagedKVCache) → Place → Prop
  | decode : Serving .decodeBatch (fun _ kv => kv.incrementTokens 1) .nextDecode
  | prefill : Serving .prefillBatch (fun req kv => kv.setNumTokens req.promptsLen) .decode

section Moves

variable (kv : KvAllocator A) (allowed : Request → Response → Prop)

inductive Move (a : A) : Place → Request → A → Place → Request → List Response → Prop
  | enqueued (r : Request) : Move a .request r a .waitingPrefill r []
  | prefillGranted (p : Place) (r : Request) (hp : p = .waitingPrefill ∨ p = .deferredPrefill)
      (h : (kv.allocatePrefill a r).ok = true) :
      Move a p r (kv.allocatePrefill a r).alloc .prefill
        ((kv.allocatePrefill a r).req.withState .prefillRunning) []
  | prefillRefused (r : Request) (h : (kv.allocatePrefill a r).ok = false) :
      Move a .waitingPrefill r (kv.allocatePrefill a r).alloc .deferredPrefill
        ((kv.allocatePrefill a r).req.withState .deferredPrefillKV) []
  | prefillRefusedAgain (r : Request) (h : (kv.allocatePrefill a r).ok = false) :
      Move a .deferredPrefill r (kv.allocatePrefill a r).alloc .deferredPrefill
        (kv.allocatePrefill a r).req []
  | decodeRetried (r : Request) : Move a .deferredDecode r a .decode (r.withState .decodeReady) []
  | swappedIn (r : Request) (h : (kv.swapIn a r).ok = true) :
      Move a .swapOut r (kv.swapIn a r).alloc .decode
        ((kv.swapIn a r).req.withState .decodeReady) []
  | swapInRefused (r : Request) (h : (kv.swapIn a r).ok = false) :
      Move a .swapOut r (kv.swapIn a r).alloc .swapOut
        ((kv.swapIn a r).req.withState .swappedOut) []
  | decodeGranted (r : Request) (h : (kv.allocateDecode a r).ok = true) :
      Move a .decode r (kv.allocateDecode a r).alloc .decodeBatch
        ((kv.allocateDecode a r).req.withState .decodeRunning) []
  | decodeRefused (r : Request) (h : (kv.allocateDecode a r).ok = false) :
      Move a .decode r (kv.allocateDecode a r).alloc .deferredDecode
        ((kv.allocateDecode a r).req.withState .deferredDecodeKV) []
  | prefillStarted (r : Request) :
      Move a .prefill r a .prefillBatch (r.withState .prefillRunning) []
  | flushed (r : Request) : Move a .nextDecode r a .decode r []
  | served (p ready : Place) (cache : Request → PagedKVCache → PagedKVCache) (r : Request)
      (answer : Option Response) (hp : Serving p cache ready)
      (ha : ∀ resp, answer = some resp → allowed r resp)
      (hf : (pushedResponse cache answer r).finished = false) :
      Move a p r a ready ((servedRequest cache answer r).withState .decodeReady)
        [pushedResponse cache answer r]
  | closed (p ready : Place) (cache : Request → PagedKVCache → PagedKVCache) (r : Request)
      (answer : Option Response) (hp : Serving p cache ready)
      (ha : ∀ resp, answer = some resp → allowed r resp)
      (hf : (pushedResponse cache answer r).finished = true) :
      Move a p r (kv.freeRequest a (servedRequest cache answer r)).1 .finish
        ((kv.freeRequest a (servedRequest cache answer r)).2.withState .finished)
        [pushedResponse cache answer r]
  | victimOut (r : Request) (hr : r.kvResidency = .gpu) (hs : kv.isSwapped a r = false)
      (h : (kv.swapOut a r).ok = true) :
      Move a .deferredDecode r (kv.swapOut a r).alloc .swapOut
        ((kv.swapOut a r).req.withState .swappedOut) []
  | victimKept (r : Request) (hr : r.kvResidency = .gpu) (hs : kv.isSwapped a r = false)
      (h : (kv.swapOut a r).ok = false) :
      Move a .deferredDecode r (kv.swapOut a r).alloc .deferredDecode
        ((kv.swapOut a r).req.withState r.state) []

variable (admissible : (Request → Prop) → Request → Prop)

def Board.Holds (b : Board A) (r : Request) : Prop := ∃ p, (p,r) ∈ b.requests

inductive Hop : Board A → Board A → Prop
  | submit (b : Board A) (req : Request) (h : admissible b.Holds req) :
      Hop b { b with requests := (.request,req) ::ₘ b.requests }
  | move (b : Board A) (a : A) (p q : Place) (r r' : Request) (resps : List Response)
      (rest : Multiset (Place × Request)) (hb : b.requests = (p,r) ::ₘ rest)
      (m : Move kv allowed b.kvAllocator p r a q r' resps) :
      Hop b ⟨a,(q,r') ::ₘ rest,b.responses++resps,b.popped++entered p r⟩

end Moves

section Identity

variable {kv : KvAllocator A} {allowed : Request → Response → Prop} {a a' : A} {p q : Place}
  {r r' : Request} {resps : List Response}

theorem Move.requestId (m : Move kv allowed a p r a' q r' resps) :
    r'.requestId = r.requestId := by
  cases m with
  | enqueued | decodeRetried | prefillStarted | flushed | served => rfl
  | prefillGranted | prefillRefused | prefillRefusedAgain => exact (kv.prefill_text a r).requestId
  | swappedIn | swapInRefused => exact (kv.in_text a r).requestId
  | decodeGranted | decodeRefused => exact (kv.decode_text a r).requestId
  | closed _ _ cache _ answer => exact (kv.free_text a (servedRequest cache answer r)).requestId
  | victimOut | victimKept => exact (kv.out_text a r).requestId

theorem Move.target (m : Move kv allowed a p r a' q r' resps) : q ≠ .request := by
  cases m with
  | served _ _ _ _ _ hp => cases hp <;> decide
  | _ => decide

end Identity

section Refinement

variable {kv : KvAllocator A} {be : InferenceBackend B} {allowed : Request → Response → Prop}
  {admissible : (Request → Prop) → Request → Prop}

theorem hop_of_pop {s t u : Scheduler A B} {p q : Place} {r r' : Request} {a : A}
    {resps : List Response} (h : s.popFront p = some (r,t))
    (m : Move kv allowed t.kvAllocator p r a q r' resps) (hheld : u.held = (q,r') ::ₘ t.held)
    (ha : u.kvAllocator = a) (hr : u.responses = t.responses++resps)
    (hn : u.popped = t.popped++entered p r) : Hop kv allowed admissible s.board u.board := by
  have hsame := pop_front_frame h
  rw [hsame.1] at m
  rw [hsame.2.1] at hr
  rw [hsame.2.2] at hn
  have hop : Hop kv allowed admissible s.board _ :=
    .move s.board a p q r r' resps t.held (held_pop_front h) m
  rw [← ha] at hop
  unfold board at hop ⊢
  rwa [hheld, hr, hn]

theorem respond_hop {p ready : Place} {cache : Request → PagedKVCache → PagedKVCache}
    (hp : Serving p cache ready) {s t : Scheduler A B} {req : Request} {answer : Option Response}
    (h : s.popFront p = some (req,t)) (hans : ∀ resp, answer = some resp → allowed req resp) :
    Hop kv allowed admissible s.board (t.respond kv cache ready answer req).board := by
  have hentered : t.popped = t.popped++entered p req := by
    cases hp <;> exact (List.append_nil _).symm
  unfold respond
  dsimp only
  split
  · rename_i hf
    exact hop_of_pop h (.closed p ready cache req answer hp hans hf) (held_push_back _ _ _) rfl rfl
      hentered
  · rename_i hf
    exact hop_of_pop h (.served p ready cache req answer hp hans (by simpa using hf))
      (held_push_back _ _ _) rfl rfl hentered

theorem append_none {β : Type*} (xs : List β) : xs = xs++[] := (List.append_nil xs).symm

theorem hop_pushed {s t : Scheduler A B} {p q : Place} {r r' : Request} {a : A}
    (h : s.popFront p = some (r,t)) (m : Move kv allowed t.kvAllocator p r a q r' [])
    (hentered : entered p r = []) :
    Hop kv allowed admissible s.board ((t.withAllocator a).pushBack q r').board := by
  have hpopped : ((t.withAllocator a).pushBack q r').popped = t.popped++entered p r := by
    rw [hentered]
    exact append_none _
  exact hop_of_pop h m (held_push_back _ _ _) rfl (append_none _) hpopped

theorem hop_of_victim {s : Scheduler A B} {before after : List Request} {q : Place}
    {r r' : Request} {a : A} (hq : s.queues .deferredDecode = before++r::after)
    (m : Move kv allowed s.kvAllocator .deferredDecode r a q r' []) :
    Hop kv allowed admissible s.board
      (((s.setQueue .deferredDecode (before++after)).withAllocator a).pushBack q r').board := by
  have hop : Hop kv allowed admissible s.board _ :=
    .move s.board _ _ _ _ _ _ _ (held_take s .deferredDecode before after r hq) m
  have hnone : entered .deferredDecode r = [] := rfl
  rwa [board, List.append_nil, hnone, List.append_nil, ← held_push_back] at hop

theorem board_holds (s : Scheduler A B) : s.board.Holds = s.Holds :=
  funext fun r => propext (exists_congr fun p => mem_held s p r)

theorem submit_board (s : Scheduler A B) (req : Request) : (s.submitRequest req).board =
    { s.board with requests := (.request,req) ::ₘ s.board.requests } :=
  congrArg (Board.mk s.kvAllocator · s.responses s.popped) (held_push_back s .request req)

/-- Every step of the scheduler is a hop on its board or leaves it as it is. -/
theorem step_hop {s t : Scheduler A B} (h : Step kv be allowed admissible s t) :
    Hop kv allowed admissible s.board t.board ∨ t.board = s.board := by
  cases h with
  | submit req hreq =>
    left
    rw [← board_holds] at hreq
    rw [submit_board]
    exact .submit s.board req hreq
  | enqueue t req hp =>
    exact .inl (hop_of_pop hp (.enqueued req) (held_push_back _ _ _) rfl (append_none _) rfl)
  | admitWaiting t req hp =>
    left
    unfold admitWaitingTurn
    dsimp only
    split
    · exact hop_pushed hp (.prefillGranted _ req (.inl rfl) ‹_›) rfl
    · exact hop_pushed hp (.prefillRefused req (by simp_all)) rfl
  | retryPrefill t req hp =>
    left
    unfold retryPrefillTurn
    dsimp only
    split
    · exact hop_of_pop hp (.prefillGranted _ req (.inr rfl) ‹_›) (held_push_front _ _ _) rfl
        (append_none _) (append_none _)
    · exact hop_pushed hp (.prefillRefusedAgain req (by simp_all)) rfl
  | retryDecode t req hp =>
    exact .inl (hop_pushed hp (.decodeRetried req) rfl)
  | swapIn t req hp =>
    left
    unfold swapInTurn
    dsimp only
    split
    · exact hop_pushed hp (.swappedIn req ‹_›) rfl
    · exact hop_pushed hp (.swapInRefused req (by simp_all)) rfl
  | admitDecode t req hp =>
    left
    unfold admitDecodeTurn
    dsimp only
    split
    · exact hop_pushed hp (.decodeGranted req ‹_›) rfl
    · exact hop_pushed hp (.decodeRefused req (by simp_all)) rfl
  | callDecode => exact .inr rfl
  | respondDecode t req answer hp hans => exact .inl (respond_hop .decode hp hans)
  | flush t req hp =>
    exact .inl (hop_pushed hp (.flushed req) rfl)
  | startPrefill t req hp =>
    exact .inl (hop_pushed hp (.prefillStarted req) rfl)
  | callPrefill => exact .inr rfl
  | respondPrefill t req answer hp hans => exact .inl (respond_hop .prefill hp hans)
  | victim before after req _ hq hr hs =>
    left
    unfold swapOutVictim
    dsimp only
    split
    · exact hop_of_victim hq (.victimOut req hr hs ‹_›)
    · rename_i hok
      exact hop_of_victim hq (.victimKept req hr hs (Bool.eq_false_iff.mpr hok))
  | control _ hsame =>
    right
    unfold board held
    rw [hsame.kvAllocator, hsame.queues, hsame.responses, hsame.popped]

/-- What holds at the start and survives every hop holds of every state visited. -/
theorem visited_board (I : Board A → Prop)
    (hhop : ∀ b c, I b → Hop kv allowed admissible b c → I c) {start s : Scheduler A B}
    (h : Visited kv be allowed admissible start s) (hstart : I start.board) : I s.board := by
  induction h with
  | refl => exact hstart
  | tail _ hstep ih =>
    rcases step_hop hstep with hop | hsame
    · exact hhop _ _ ih hop
    · rwa [hsame]

/-- An invariant of the allocator, and one that every request meets in its place. -/
theorem visited_each (Inv : A → Prop) (P : Place → Request → Prop)
    (hsubmit : ∀ holds req, admissible holds req → P .request req)
    (hmove : ∀ a p r a' q r' resps, Inv a → P p r → Move kv allowed a p r a' q r' resps →
      Inv a' ∧ P q r') {a : A} {b : B} {async : Bool} {s : Scheduler A B}
    (h : Visited kv be allowed admissible (started a b async) s) (hstart : Inv a) :
    Inv s.kvAllocator ∧ ∀ p, ∀ r ∈ s.queues p, P p r := by
  have hall : Inv s.board.kvAllocator ∧ ∀ x ∈ s.board.requests, P x.1 x.2 := by
    refine visited_board (fun b => Inv b.kvAllocator ∧ ∀ x ∈ b.requests, P x.1 x.2) ?_ h
      ⟨hstart,fun x hx => absurd hx (Multiset.notMem_zero x)⟩
    intro c d hc hop
    cases hop with
    | submit req hreq =>
      refine ⟨hc.1,fun x hx => ?_⟩
      rcases Multiset.mem_cons.mp hx with rfl | hx
      · exact hsubmit _ req hreq
      · exact hc.2 x hx
    | move a' p q r r' resps rest hb m =>
      have hown : (p,r) ∈ c.requests := hb ▸ Multiset.mem_cons_self _ _
      obtain ⟨hinv,hp⟩ := hmove _ _ _ _ _ _ _ hc.1 (hc.2 _ hown) m
      refine ⟨hinv,fun x hx => ?_⟩
      rcases Multiset.mem_cons.mp hx with rfl | hx
      · exact hp
      · exact hc.2 x (hb ▸ Multiset.mem_cons_of_mem hx)
  exact ⟨hall.1,fun p r hr => hall.2 (p,r) ((mem_held s p r).mpr hr)⟩

end Refinement

end MiniLlm
