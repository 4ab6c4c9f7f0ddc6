import MiniLlm.RealKvAllocator

/-!
# The scheduler

The queues of the scheduler, the request queue and the local vectors of the
two batch functions are the places a request can be in; a request is in the
list of its place. The allocator and the backend are interfaces, as in the
source: an allocator leaves the text of a request alone, a backend only
answers. What was pushed to the response queue and what was handed to the
backend is kept in full.
-/

set_option autoImplicit false

namespace MiniLlm

inductive Place where
  /-- `request_queue_` -/
  | request
  | waitingPrefill
  | prefill
  | decode
  | finish
  | deferredPrefill
  | deferredDecode
  | cancel
  | swapOut
  /-- `batch` of `run_decode_batch` -/
  | decodeBatch
  /-- `next_decode_queue` -/
  | nextDecode
  /-- `batch` of `run_prefill_batch` -/
  | prefillBatch
  deriving DecidableEq, Repr

structure KvAllocator (A : Type*) where
  allocatePrefill : A → Request → Outcome A
  allocateDecode : A → Request → Outcome A
  freeRequest : A → Request → A × Request
  swapOut : A → Request → Outcome A
  swapIn : A → Request → Outcome A
  isSwapped : A → Request → Bool
  prefill_text : ∀ a (r : Request), r.SameText (allocatePrefill a r).req
  decode_text : ∀ a (r : Request), r.SameText (allocateDecode a r).req
  free_text : ∀ a (r : Request), r.SameText (freeRequest a r).2
  out_text : ∀ a (r : Request), r.SameText (swapOut a r).req
  in_text : ∀ a (r : Request), r.SameText (swapIn a r).req

structure InferenceBackend (B : Type*) where
  prefill : B → List Request → List Response × B
  decode : B → List Request → List Response × B

structure Scheduler (A B : Type*) where
  queues : Place → List Request
  /-- `closed_` of the request queue -/
  closed : Bool
  responses : List Response
  /-- Whether `response_async_` is not null. -/
  responseAsync : Bool
  asyncSends : ℕ
  hasResp : Bool
  admissionPaused : Bool
  running : Bool
  backend : B
  kvAllocator : A
  /-- The ids popped from the request queue. -/
  popped : List UInt64
  prefillCalls : List (List Request)
  decodeCalls : List (List Request)

inductive Turn where
  | progressed
  | continued
  | stopped
  deriving DecidableEq, Repr

namespace Scheduler

variable {A B : Type*}

def setQueue (s : Scheduler A B) (q : Place) (reqs : List Request) : Scheduler A B :=
  { s with queues := Function.update s.queues q reqs }

def pushBack (s : Scheduler A B) (q : Place) (req : Request) : Scheduler A B :=
  s.setQueue q (s.queues q++[req])

def pushFront (s : Scheduler A B) (q : Place) (req : Request) : Scheduler A B :=
  s.setQueue q (req::s.queues q)

def popFront (s : Scheduler A B) (q : Place) : Option (Request × Scheduler A B) :=
  match s.queues q with
  | [] => none
  | req::rest => some (req,s.setQueue q rest)

def withAllocator (s : Scheduler A B) (a : A) : Scheduler A B := { s with kvAllocator := a }

/-- `n` turns at most of a loop over the front of a queue, and whether one made progress. -/
def forFront (q : Place) (body : Request → Scheduler A B → Turn × Scheduler A B) :
    ℕ → Scheduler A B → Bool × Scheduler A B
  | 0, s => (false,s)
  | n+1, s =>
    match s.popFront q with
    | none => (false,s)
    | some (req,s) =>
      match body req s with
      | (.stopped,s) => (false,s)
      | (.continued,s) => forFront q body n s
      | (.progressed,s) => (true,(forFront q body n s).2)

def enqueueWaiting (req : Request) (s : Scheduler A B) : Scheduler A B :=
  { s with popped := s.popped++[req.requestId] }.pushBack .waitingPrefill req

def drainNewRequests (s : Scheduler A B) : Scheduler A B :=
  (s.forFront .request (fun req s => (.continued,s.enqueueWaiting req)) maxBatchNum).2

section Allocator

variable (kv : KvAllocator A)

def admitWaitingTurn (req : Request) (s : Scheduler A B) : Turn × Scheduler A B :=
  let out := kv.allocatePrefill s.kvAllocator req
  let s := s.withAllocator out.alloc
  if out.ok then (.progressed,s.pushBack .prefill (out.req.withState .prefillRunning))
  else (.stopped,s.pushBack .deferredPrefill (out.req.withState .deferredPrefillKV))

def admitWaitingPrefill (s : Scheduler A B) : Bool × Scheduler A B :=
  s.forFront .waitingPrefill (admitWaitingTurn kv) (s.queues .waitingPrefill).length

def retryPrefillTurn (req : Request) (s : Scheduler A B) : Turn × Scheduler A B :=
  let out := kv.allocatePrefill s.kvAllocator req
  let s := s.withAllocator out.alloc
  if out.ok then (.progressed,s.pushFront .prefill (out.req.withState .prefillRunning))
  else (.continued,s.pushBack .deferredPrefill out.req)

def retryDeferredPrefill (s : Scheduler A B) : Bool × Scheduler A B :=
  s.forFront .deferredPrefill (retryPrefillTurn kv) (s.queues .deferredPrefill).length

def retryDecodeTurn (req : Request) (s : Scheduler A B) : Turn × Scheduler A B :=
  (.continued,s.pushBack .decode (req.withState .decodeReady))

def retryDeferredDecode (s : Scheduler A B) : Scheduler A B :=
  (s.forFront .deferredDecode retryDecodeTurn (s.queues .deferredDecode).length).2

def swapInTurn (req : Request) (s : Scheduler A B) : Turn × Scheduler A B :=
  let out := kv.swapIn s.kvAllocator req
  let s := s.withAllocator out.alloc
  if out.ok then (.progressed,s.pushBack .decode (out.req.withState .decodeReady))
  else (.continued,s.pushBack .swapOut (out.req.withState .swappedOut))

def retrySwapInRequests (s : Scheduler A B) : Bool × Scheduler A B :=
  s.forFront .swapOut (swapInTurn kv) (s.queues .swapOut).length

def admitDecodeTurn (req : Request) (s : Scheduler A B) : Scheduler A B :=
  let out := kv.allocateDecode s.kvAllocator req
  let s := s.withAllocator out.alloc
  if out.ok then s.pushBack .decodeBatch (out.req.withState .decodeRunning)
  else s.pushBack .deferredDecode (out.req.withState .deferredDecodeKV)

/-- The inner loop of `run_decode_batch`, with the value of `remaining` it leaves. -/
def admitDecodeLoop : ℕ → Scheduler A B → ℕ × Scheduler A B
  | 0, s => (0,s)
  | remaining+1, s =>
    if maxBatchNum ≤ (s.queues .decodeBatch).length then (remaining+1,s) else
    match s.popFront .decode with
    | none => (0,s)
    | some (req,s) => admitDecodeLoop remaining (s.admitDecodeTurn kv req)

/-- `resp` as received, or as made up when the backend returned too few responses. -/
def receivedResponse (answer : Option Response) (req : Request) : Response :=
  answer.getD (Response.new req.requestId (-1) true)

def servedRequest (cache : Request → PagedKVCache → PagedKVCache) (answer : Option Response)
    (req : Request) : Request :=
  (req.mapCaches (cache req)).pushToken (receivedResponse answer req).token

/-- `resp` as it is pushed. -/
def pushedResponse (cache : Request → PagedKVCache → PagedKVCache) (answer : Option Response)
    (req : Request) : Response :=
  if (servedRequest cache answer req).isfinish then
    { receivedResponse answer req with finished := true }
  else receivedResponse answer req

/-- One turn of the response loops; an unfinished request goes to `ready`. -/
def respond (cache : Request → PagedKVCache → PagedKVCache) (ready : Place)
    (answer : Option Response) (req : Request) (s : Scheduler A B) : Scheduler A B :=
  let served := servedRequest cache answer req
  let resp := pushedResponse cache answer req
  let s := { s with responses := s.responses++[resp], hasResp := true }
  if resp.finished then
    let out := kv.freeRequest s.kvAllocator served
    (s.withAllocator out.1).pushBack .finish (out.2.withState .finished)
  else s.pushBack ready (served.withState .decodeReady)

def respondDecode : Option Response → Request → Scheduler A B → Scheduler A B :=
  respond kv (fun _ kv => kv.incrementTokens 1) .nextDecode

def respondPrefill : Option Response → Request → Scheduler A B → Scheduler A B :=
  respond kv (fun req kv => kv.setNumTokens req.promptsLen) .decode

/-- A response loop over the batch in `q`. -/
def respondLoop (q : Place) (turn : Option Response → Request → Scheduler A B → Scheduler A B) :
    ℕ → List Response → Scheduler A B → Scheduler A B
  | 0, _, s => s
  | n+1, answers, s =>
    match s.popFront q with
    | none => s
    | some (req,s) => respondLoop q turn n answers.tail (turn answers.head? req s)

def notify (s : Scheduler A B) : Scheduler A B :=
  if s.hasResp && s.responseAsync then { s with asyncSends := s.asyncSends+1 } else s

variable (be : InferenceBackend B)

def callDecode (s : Scheduler A B) : List Response × Scheduler A B :=
  let batch := s.queues .decodeBatch
  let out := be.decode s.backend batch
  (out.1,{ s with backend := out.2, decodeCalls := s.decodeCalls++[batch] })

def callPrefill (s : Scheduler A B) : List Response × Scheduler A B :=
  let batch := s.queues .prefillBatch
  let out := be.prefill s.backend batch
  (out.1,{ s with backend := out.2, prefillCalls := s.prefillCalls++[batch] })

def serveDecode (s : Scheduler A B) : Scheduler A B :=
  let call := s.callDecode be
  respondLoop .decodeBatch (respondDecode kv) (s.queues .decodeBatch).length call.1 call.2

def servePrefill (s : Scheduler A B) : Scheduler A B :=
  let call := s.callPrefill be
  respondLoop .prefillBatch (respondPrefill kv) (s.queues .prefillBatch).length call.1 call.2

/-- The outer loop of `run_decode_batch`; every turn pops a request, so `remaining` turns
are enough. -/
def decodeRounds : ℕ → ℕ → Scheduler A B → Bool × Scheduler A B
  | 0, _, s => (false,s)
  | turns+1, remaining, s =>
    if remaining = 0 then (false,s) else
    let admitted := s.admitDecodeLoop kv remaining
    let s := admitted.2
    if s.queues .decodeBatch = [] then decodeRounds turns admitted.1 s else
    (true,(decodeRounds turns admitted.1 (s.serveDecode kv be)).2)

def flushNextDecode (s : Scheduler A B) : Scheduler A B :=
  (s.forFront .nextDecode (fun req s => (.continued,s.pushBack .decode req))
    (s.queues .nextDecode).length).2

def runDecodeBatch (s : Scheduler A B) : Bool × Scheduler A B :=
  let remaining := (s.queues .decode).length
  let out := decodeRounds kv be remaining remaining { s with hasResp := false }
  (out.1,out.2.flushNextDecode.notify)

def startPrefillTurn (req : Request) (s : Scheduler A B) : Turn × Scheduler A B :=
  (.continued,s.pushBack .prefillBatch (req.withState .prefillRunning))

def startPrefill (s : Scheduler A B) : Scheduler A B :=
  (s.forFront .prefill startPrefillTurn maxBatchNum).2

def prefillRounds : ℕ → Scheduler A B → Bool × Scheduler A B
  | 0, s => (false,s)
  | turns+1, s =>
    if s.queues .prefill = [] then (false,s) else
    let s := s.startPrefill
    if s.queues .prefillBatch = [] then (false,s) else
    (true,(prefillRounds turns (s.servePrefill kv be)).2)

def runPrefillBatch (s : Scheduler A B) : Bool × Scheduler A B :=
  let out := prefillRounds kv be (s.queues .prefill).length { s with hasResp := false }
  (out.1,out.2.notify)

def noInternalWork (s : Scheduler A B) : Bool :=
  (s.queues .waitingPrefill).isEmpty && (s.queues .prefill).isEmpty &&
  (s.queues .decode).isEmpty && (s.queues .deferredPrefill).isEmpty &&
  (s.queues .deferredDecode).isEmpty && (s.queues .swapOut).isEmpty &&
  (s.queues .cancel).isEmpty

def findVictim (a : A) : List Request → Option (List Request × Request × List Request)
  | [] => none
  | req::rest =>
    if req.kvResidency ≠ .gpu ∨ kv.isSwapped a req = true then
      (findVictim a rest).map (fun found => (req::found.1,found.2))
    else some ([],req,rest)

def swapOutVictim (q : Place) (req : Request) (s : Scheduler A B) : Bool × Scheduler A B :=
  let out := kv.swapOut s.kvAllocator req
  let s := s.withAllocator out.alloc
  if out.ok then
    (true,{ s.pushBack .swapOut (out.req.withState .swappedOut) with admissionPaused := true })
  else (false,s.pushBack q (out.req.withState req.state))

/-- `try_from` -/
def tryFrom (q : Place) (s : Scheduler A B) : Bool × Scheduler A B :=
  match findVictim kv s.kvAllocator (s.queues q) with
  | none => (false,s)
  | some (before,req,after) => (s.setQueue q (before++after)).swapOutVictim kv q req

def trySwapOutVictim (s : Scheduler A B) : Bool × Scheduler A B :=
  match s.tryFrom kv .deferredDecode with
  | (true,s) => (true,s)
  | (false,s) => s.tryFrom kv .decode

/-- `wait_and_enqueue_one_request`, unless the thread sleeps. -/
def waitAndEnqueueOneRequest (s : Scheduler A B) : Option (Scheduler A B) :=
  match s.popFront .request with
  | some (req,s) => some (s.enqueueWaiting req)
  | none => if s.closed then some { s with running := false } else none

/-- `is_progress |= f()` -/
def thenRun (f : Scheduler A B → Bool × Scheduler A B) (out : Bool × Scheduler A B) :
    Bool × Scheduler A B := (out.1 || (f out.2).1,(f out.2).2)

def drainUnlessPaused (s : Scheduler A B) : Scheduler A B :=
  if s.admissionPaused then s else s.drainNewRequests

/-- The loop body up to the search for a victim, and `is_progress`. -/
def runPhases (s : Scheduler A B) : Bool × Scheduler A B :=
  (false,s.drainUnlessPaused)
  |> thenRun (retrySwapInRequests kv)
  |> thenRun (fun s => (false,s.retryDeferredDecode))
  |> thenRun (runDecodeBatch kv be)
  |> thenRun (retrySwapInRequests kv)
  |> thenRun (retryDeferredPrefill kv)
  |> thenRun (admitWaitingPrefill kv)
  |> thenRun (runPrefillBatch kv be)
  |> thenRun (retrySwapInRequests kv)

def resumeAdmission (s : Scheduler A B) : Scheduler A B :=
  if s.admissionPaused && s.noInternalWork then { s with admissionPaused := false } else s

/-- The body of `worker_loop` up to its last statement, which waits when there is no work. -/
def workerLoopBody (s : Scheduler A B) : Scheduler A B :=
  let out := s.runPhases kv be
  let s := if !out.1 && !out.2.noInternalWork then (out.2.trySwapOutVictim kv).2 else out.2
  s.resumeAdmission

end Allocator

/-- `submit_request` -/
def submitRequest (s : Scheduler A B) (req : Request) : Scheduler A B := s.pushBack .request req

/-- `stop` -/
def stop (s : Scheduler A B) : Scheduler A B := { s with running := false, closed := true }

/-- After `start`. -/
def started (a : A) (b : B) (responseAsync : Bool) : Scheduler A B where
  queues := fun _ => []
  closed := false
  responses := []
  responseAsync := responseAsync
  asyncSends := 0
  hasResp := false
  admissionPaused := false
  running := true
  backend := b
  kvAllocator := a
  popped := []
  prefillCalls := []
  decodeCalls := []

end Scheduler

end MiniLlm
