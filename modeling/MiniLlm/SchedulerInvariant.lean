import MiniLlm.MockRuntime
import MiniLlm.Placement

/-!
# Custody of blocks and requests over whole runs

The invariant of the board with the real allocator: the ids of the requests
are distinct, every request looks as its place says, only swapped-out
requests have an entry, and the free stacks, the tables and the entries
together hold each block id once.
-/

set_option autoImplicit false

namespace MiniLlm

open RealKvAllocator Scheduler

variable {α : Type*}

def Anything (_ : Request) (_ : Response) : Prop := True

theorem answers_anything {B : Type*} (be : InferenceBackend B) : be.Answers Anything :=
  ⟨fun _ _ _ _ _ _ _ => trivial,fun _ _ _ _ _ _ _ => trivial⟩

section Moves

variable {a a' : RealKvAllocator α} {p q : Place} {r r' : Request} {resps : List Response}
  {allowed : Request → Response → Prop}

/-- No move creates, loses or duplicates a block id. -/
theorem move_exchange (h : Placed (a.swappedRequests.lookup r.requestId) r p) (ho : Owned a r)
    (m : Move (realKvAllocator α) allowed a p r a' q r' resps) : Exchange a r a' r' := by
  cases m with
  | enqueued => exact .refl a r r rfl
  | prefillGranted => exact (allocate_exchange a r _).request _ _ rfl
  | prefillRefused => exact (allocate_exchange a r _).request _ _ rfl
  | prefillRefusedAgain => exact allocate_exchange a r _
  | decodeRetried => exact .refl a r _ rfl
  | swappedIn =>
    obtain ⟨_,_,_,hshape,_⟩ := h
    exact (swap_in_exchange a r ho hshape.blocks_empty).request _ _ rfl
  | swapInRefused =>
    obtain ⟨_,_,_,hshape,_⟩ := h
    exact (swap_in_exchange a r ho hshape.blocks_empty).request _ _ rfl
  | decodeGranted => exact (allocate_exchange a r _).request _ _ rfl
  | decodeRefused => exact (allocate_exchange a r _).request _ _ rfl
  | prefillStarted => exact .refl a r _ rfl
  | flushed => exact .refl a r r rfl
  | served _ _ cache _ answer hp => exact .refl a r _ (served_blocks hp answer)
  | closed _ _ cache _ answer hp =>
    have hsame : (servedRequest cache answer r).blocks = r.blocks := served_blocks hp answer
    have hfree := free_exchange a (servedRequest cache answer r) (ho.request hsame)
    exact Exchange.source _ _ (hfree.request _ _ (by rfl)) hsame rfl
  | victimOut =>
    obtain ⟨_,_,_,_,hentry⟩ := h
    exact (swap_out_exchange a r ho hentry).request _ _ rfl
  | victimKept =>
    obtain ⟨_,_,_,_,hentry⟩ := h
    exact (swap_out_exchange a r ho hentry).request _ _ rfl

end Moves

def tables (requests : Multiset (Place × Request)) : Multiset ℕ :=
  requests.bind fun x => (x.2.blocks : Multiset ℕ)

theorem tables_cons (x : Place × Request) (rest : Multiset (Place × Request)) :
    tables (x ::ₘ rest) = (x.2.blocks : Multiset ℕ)+tables rest := Multiset.cons_bind _ _ _

structure Custody (totalBlocks totalCpuBlocks : ℕ) (b : Board (RealKvAllocator α)) : Prop where
  distinct : (b.requests.map (fun x => x.2.requestId)).Nodup
  placed : ∀ x ∈ b.requests,
    Placed (b.kvAllocator.swappedRequests.lookup x.2.requestId) x.2 x.1
  entries : ∀ id, b.kvAllocator.swappedRequests.lookup id ≠ none →
    ∃ x ∈ b.requests, x.2.requestId = id
  gpu : (b.kvAllocator.blockManager.gpu.ids : Multiset ℕ)+tables b.requests =
    Multiset.range totalBlocks
  gpuTotal : b.kvAllocator.blockManager.gpu.total = totalBlocks
  cpu : (b.kvAllocator.blockManager.cpu.ids++recordedIds b.kvAllocator.swappedRequests).Perm
    (List.range totalCpuBlocks)
  cpuTotal : b.kvAllocator.blockManager.cpu.total = totalCpuBlocks
  reports : b.kvAllocator.blockManager.reports = []

section Hops

variable {totalBlocks totalCpuBlocks : ℕ} {b c : Board (RealKvAllocator α)}

theorem Custody.owned (h : Custody totalBlocks totalCpuBlocks b) {p : Place} {r : Request}
    {rest : Multiset (Place × Request)} (hb : b.requests = (p,r) ::ₘ rest) :
    Owned b.kvAllocator r := by
  have hgpu := h.gpu
  rw [hb, tables_cons, ← add_assoc] at hgpu
  have hnodup := (Multiset.nodup_add.mp (hgpu ▸ Multiset.nodup_range totalBlocks)).1
  refine ⟨Multiset.coe_nodup.mp hnodup,?_,h.cpu.nodup_iff.mpr List.nodup_range,?_⟩
  · intro i hi
    have hm : i ∈ Multiset.range totalBlocks := by
      rw [← hgpu]
      exact Multiset.mem_add.mpr (.inl (Multiset.mem_add.mpr (.inr hi)))
    rw [h.gpuTotal]
    exact Multiset.mem_range.mp hm
  · intro i hi
    rw [h.cpuTotal]
    exact List.mem_range.mp (h.cpu.mem_iff.mp (List.mem_append_right _ hi))

theorem constructed_placed {req : Request} (h : Constructed req) :
    Placed none req .request := by
  have hcaches := constructed_caches h
  obtain ⟨reqId,t,maxTokens,rfl⟩ := h
  refine ⟨rfl,⟨rfl,rfl,fun kv hkv => ?_,fun kv hkv => (hcaches kv hkv).2⟩,rfl⟩
  rw [PagedKVCache.numBlocks, (hcaches kv hkv).1]
  rfl

theorem submit_custody {req : Request} (h : Custody totalBlocks totalCpuBlocks b)
    (hreq : NewRequest b.Holds req) :
    Custody totalBlocks totalCpuBlocks { b with requests := (.request,req) ::ₘ b.requests } := by
  obtain ⟨hreq,fresh⟩ := hreq
  replace fresh (x : Place × Request) (hx : x ∈ b.requests) : x.2.requestId ≠ req.requestId :=
    fresh x.2 ⟨x.1,hx⟩
  have hplaced := constructed_placed hreq
  have hentry : b.kvAllocator.swappedRequests.lookup req.requestId = none := by
    by_contra hne
    obtain ⟨x,hx,hid⟩ := h.entries _ hne
    exact fresh x hx hid
  refine ⟨?_,?_,?_,?_,h.gpuTotal,h.cpu,h.cpuTotal,h.reports⟩
  · exact distinct_cons h.distinct fresh
  · intro x hx
    rcases Multiset.mem_cons.mp hx with rfl | hx
    · dsimp only
      rw [hentry]
      exact hplaced
    · exact h.placed x hx
  · intro id hne
    obtain ⟨x,hx,hid⟩ := h.entries id hne
    exact ⟨x,Multiset.mem_cons_of_mem hx,hid⟩
  · rw [tables_cons, hplaced.2.1.blocks_empty]
    exact (congrArg _ (zero_add _)).trans h.gpu

theorem move_custody {allowed : Request → Response → Prop} {a' : RealKvAllocator α}
    {p q : Place} {r r' : Request} {resps : List Response} {rest : Multiset (Place × Request)}
    (h : Custody totalBlocks totalCpuBlocks b) (hb : b.requests = (p,r) ::ₘ rest)
    (m : Move (realKvAllocator α) allowed b.kvAllocator p r a' q r' resps) :
    Custody totalBlocks totalCpuBlocks
      ⟨a',(q,r') ::ₘ rest,b.responses++resps,b.popped++entered p r⟩ := by
  have hown : (p,r) ∈ b.requests := hb ▸ Multiset.mem_cons_self _ _
  have hrest (x : Place × Request) (hx : x ∈ rest) : x ∈ b.requests :=
    hb ▸ Multiset.mem_cons_of_mem hx
  have hplaced := h.placed _ hown
  have hmoved := move_exchange hplaced (h.owned hb) m
  have hid := m.requestId
  have hdistinct := h.distinct
  rw [hb] at hdistinct
  have hother := distinct_rest hdistinct
  refine ⟨?_,?_,?_,?_,hmoved.gpuTotal.trans h.gpuTotal,hmoved.cpu.trans h.cpu,
    hmoved.cpuTotal.trans h.cpuTotal,hmoved.reports.trans h.reports⟩
  · rw [Multiset.map_cons] at hdistinct ⊢
    rwa [hid]
  · intro x hx
    rcases Multiset.mem_cons.mp hx with rfl | hx
    · dsimp only
      rw [hid]
      exact move_placed hplaced m
    · dsimp only
      rw [hmoved.others _ (hother x hx)]
      exact h.placed x (hrest x hx)
  · intro id hne
    by_cases hown' : id = r.requestId
    · exact ⟨(q,r'),Multiset.mem_cons_self _ _,hid.trans hown'.symm⟩
    · dsimp only at hne
      rw [hmoved.others id hown'] at hne
      obtain ⟨x,hx,hx'⟩ := h.entries id hne
      rw [hb] at hx
      rcases Multiset.mem_cons.mp hx with rfl | hx
      · exact absurd hx'.symm hown'
      · exact ⟨x,Multiset.mem_cons_of_mem hx,hx'⟩
  · have hgpu := h.gpu
    rw [hb, tables_cons, ← add_assoc] at hgpu
    rw [tables_cons, ← add_assoc]
    exact (congrArg (·+tables rest) (Multiset.coe_eq_coe.mpr hmoved.gpu)).trans hgpu

theorem hop_custody {allowed : Request → Response → Prop}
    (h : Custody totalBlocks totalCpuBlocks b)
    (hop : Hop (realKvAllocator α) allowed NewRequest b c) :
    Custody totalBlocks totalCpuBlocks c := by
  cases hop with
  | submit req hreq => exact submit_custody h hreq
  | move a p q r r' resps rest hb m => exact move_custody h hb m

end Hops

section Runs

variable {B : Type*} {be : InferenceBackend B} {allowed : Request → Response → Prop}

def startedReal (device : Device α) (b : B) (responseAsync : Bool) :
    Scheduler (RealKvAllocator α) B := started (RealKvAllocator.new device) b responseAsync

theorem new_allocator (device : Device α) :
    (RealKvAllocator.new device).blockManager =
      BlockManager.new defaultTotalKvBlocks defaultTotalCpuBlocks ∧
    (RealKvAllocator.new device).swappedRequests = ∅ := by
  unfold RealKvAllocator.new initSwapInBuffers
  dsimp only
  split
  · exact ⟨rfl,rfl⟩
  · split <;> exact ⟨rfl,rfl⟩

theorem fresh_custody (a : RealKvAllocator α) (totalBlocks totalCpuBlocks : ℕ)
    (hbm : a.blockManager = BlockManager.new totalBlocks totalCpuBlocks)
    (hentries : a.swappedRequests = ∅) :
    Custody totalBlocks totalCpuBlocks ⟨a,0,[],[]⟩ := by
  refine ⟨by simp,by simp,?_,?_,?_,?_,?_,?_⟩
  · intro id hne
    dsimp only at hne
    rw [hentries] at hne
    exact absurd (AList.lookup_empty id) hne
  · rw [hbm]
    change (((List.range totalBlocks).reverse : List ℕ) : Multiset ℕ)+0 = _
    rw [add_zero, Multiset.coe_reverse]
    rfl
  · rw [hbm]
    rfl
  · rw [hbm, hentries]
    change ((List.range totalCpuBlocks).reverse++[]).Perm _
    rw [List.append_nil]
    exact List.reverse_perm _
  · rw [hbm]
    rfl
  · rw [hbm]
    rfl

theorem started_custody (device : Device α) (b : B) (async : Bool) :
    Custody defaultTotalKvBlocks defaultTotalCpuBlocks (startedReal device b async).board :=
  fresh_custody _ _ _ (new_allocator device).1 (new_allocator device).2

theorem visited_custody {device : Device α} {b : B} {async : Bool}
    {s : Scheduler (RealKvAllocator α) B}
    (h : Visited (realKvAllocator α) be allowed NewRequest (startedReal device b async) s) :
    Custody defaultTotalKvBlocks defaultTotalCpuBlocks s.board :=
  visited_board (Custody _ _) (fun _ _ => hop_custody) h (started_custody device b async)

end Runs

section OneRequest

def oneSubmitted : Scheduler (RealKvAllocator ℤ) Unit :=
  (startedReal freshDevice () true).submitRequest (Request.new 1 [5] 8)

def oneServed : Scheduler (RealKvAllocator ℤ) Unit :=
  oneSubmitted.workerLoopBody (realKvAllocator ℤ) mockBackend

def oneDecoded : Scheduler (RealKvAllocator ℤ) Unit :=
  oneServed.workerLoopBody (realKvAllocator ℤ) mockBackend

theorem one_request_new :
    NewRequest (startedReal freshDevice () true).Holds (Request.new 1 [5] 8) :=
  ⟨⟨1,[5],8,rfl⟩,fun _ ⟨_,hr⟩ => absurd hr List.not_mem_nil⟩

end OneRequest

end MiniLlm
