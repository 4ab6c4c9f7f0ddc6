import MiniLlm.RowSlots

/-!
# Attention reads what was appended

The slots of different positions are different because no block is in two
tables, so a launch overwrites only the positions it is for. Along every run
all cached positions of all requests are kept, and the flattened block table
leads the attention kernel to them.
-/

set_option autoImplicit false

namespace MiniLlm

open FlatMemory RealKvAllocator PagedRun

variable {ι α : Type*}

structure Apart (a : RealKvAllocator α) (request : ι → Request) : Prop where
  owned : ∀ i, Owned a (request i)
  apart : ∀ i j, i ≠ j → List.Disjoint (request i).blocks (request j).blocks

theorem Apart.tables {a : RealKvAllocator α} {request : ι → Request} (h : Apart a request)
    (htotal : a.blockManager.gpu.total = defaultTotalKvBlocks) : TablesApart request where
  nodup i := (List.nodup_append'.mp (h.owned i).gpu).2.1
  apart := h.apart
  inPool i p hp := htotal ▸ (h.owned i).gpuBound p hp

structure KeptAt (w : PagedRun ι α) (key : TokenKey ι) (slot : ℕ × ℕ) (kv : (ℕ → α) × (ℕ → α)) :
    Prop where
  located : keySlot w.request key = some slot
  logged : w.appended key = some kv
  keys : ∀ c < gpt2DModel, w.pool (dstBase slot+c) = kv.1 c ∧
    w.writer (dstBase slot+c) = some key
  values : ∀ c < gpt2DModel, w.pool (vPool+(dstBase slot+c)) = kv.2 c ∧
    w.writer (vPool+(dstBase slot+c)) = some key

def Kept (w : PagedRun ι α) (key : TokenKey ι) : Prop := ∃ slot kv, KeptAt w key slot kv

variable [DecidableEq ι]

section Log

variable (qkv : Memory α) (layer : Fin gpt2NLayers)

theorem log_rows_other (row : ℕ) (rows : List (ι × ℕ))
    (log : TokenKey ι → Option ((ℕ → α) × (ℕ → α))) (key : TokenKey ι)
    (h : ∀ r ∈ rows, key ≠ (r.1,layer,r.2)) : logRows qkv layer row rows log key = log key := by
  induction rows generalizing row log with
  | nil => rfl
  | cons r rows ih =>
    rw [logRows, ih _ _ fun q hq => h q (by simp [hq])]
    exact Function.update_of_ne (h r (by simp)) _ _

theorem log_rows_get (row : ℕ) (rows : List (ι × ℕ))
    (log : TokenKey ι → Option ((ℕ → α) × (ℕ → α))) (hd : rows.Nodup) (k : ℕ) (r : ι × ℕ)
    (hk : rows[k]? = some r) :
    logRows qkv layer row rows log (r.1,layer,r.2) = some (rowKv qkv (row+k)) := by
  induction rows generalizing row log k with
  | nil => simp at hk
  | cons first rows ih =>
    obtain ⟨hfirst,hrest⟩ := List.nodup_cons.mp hd
    cases k with
    | zero =>
      obtain rfl := Option.some.inj hk
      rw [logRows, log_rows_other _ _ _ _ _ _ ?_, Function.update_self, Nat.add_zero]
      intro q hq he
      obtain rfl := row_of_key he
      exact hfirst hq
    | succ k =>
      rw [logRows, ih _ _ hrest k hk, show row+1+k = row+(k+1) by omega]

end Log

section Launch

variable {w : PagedRun ι α} {layer : Fin gpt2NLayers} {rows : List (ι × ℕ)} {qkv : Memory α}
  {slots : List (ℕ × ℕ)} (hapart : TablesApart w.request)
  (hslots : SlotsAt w.request layer rows slots)

include hapart hslots

theorem append_rows_kept (hd : rows.Nodup) (r : ι × ℕ) (hr : r ∈ rows) :
    Kept (w.appendRows layer rows qkv slots) (r.1,layer,r.2) := by
  obtain ⟨k,hk⟩ := List.mem_iff_getElem?.mp hr
  obtain ⟨slot,_,hkey⟩ := hslots.at hk
  have hpool (c : ℕ) (hc : c < gpt2DModel) :=
    append_row_stored hapart hslots qkv w.alloc.device.pool hd hk hkey hc
  have hwriter (c : ℕ) (hc : c < gpt2DModel) :=
    append_row_stored hapart hslots (rowKey layer rows) w.writer hd hk hkey hc
  refine ⟨slot,rowKv qkv k,hkey,?_,?_,?_⟩
  · have hlog := log_rows_get qkv layer 0 rows w.appended hd k r hk
    rwa [Nat.zero_add] at hlog
  · intro c hc
    refine ⟨(hpool c hc).1,(hwriter c hc).1.trans ?_⟩
    rw [rowKey, key_source_row k c hc, hk]
    rfl
  · intro c hc
    refine ⟨(hpool c hc).2,(hwriter c hc).2.trans ?_⟩
    rw [rowKey, value_source_row k c hc, hk]
    rfl

theorem append_rows_spares (key : TokenKey ι) (hkept : Kept w key)
    (hother : ∀ r ∈ rows, key ≠ (r.1,layer,r.2)) :
    Kept (w.appendRows layer rows qkv slots) key := by
  obtain ⟨slot,kv,hslot,hlog,hkeys,hvalues⟩ := hkept
  have hpool (c : ℕ) (hc : c < gpt2DModel) :=
    append_row_spared hapart hslots qkv w.alloc.device.pool hother hslot hc
  have hwriter (c : ℕ) (hc : c < gpt2DModel) :=
    append_row_spared hapart hslots (rowKey layer rows) w.writer hother hslot hc
  refine ⟨slot,kv,hslot,(log_rows_other qkv layer 0 rows _ key hother).trans hlog,?_,?_⟩
  · exact fun c hc =>
      ⟨(hpool c hc).1.trans (hkeys c hc).1,(hwriter c hc).1.trans (hkeys c hc).2⟩
  · exact fun c hc =>
      ⟨(hpool c hc).2.trans (hvalues c hc).1,(hwriter c hc).2.trans (hvalues c hc).2⟩

theorem append_rows_all (hd : rows.Nodup) (key : TokenKey ι) (hkept : Kept w key) :
    Kept (w.appendRows layer rows qkv slots) key := by
  by_cases hrow : ∃ r ∈ rows, key = (r.1,layer,r.2)
  · obtain ⟨r,hr,rfl⟩ := hrow
    exact append_rows_kept hapart hslots hd r hr
  · exact append_rows_spares hapart hslots key hkept fun r hr he => hrow ⟨r,hr,he⟩

end Launch

structure SameTables (w v : PagedRun ι α) : Prop where
  request : v.request = w.request
  blockManager : v.alloc.blockManager = w.alloc.blockManager
  swappedRequests : v.alloc.swappedRequests = w.alloc.swappedRequests

structure TablesSound (w : PagedRun ι α) : Prop where
  total : w.alloc.blockManager.gpu.total = defaultTotalKvBlocks
  apart : Apart w.alloc w.request

structure PagedSound (w : PagedRun ι α) : Prop extends TablesSound w where
  kept : ∀ i layer t, t < ((w.request i).cache layer).numTokens → Kept w (i,layer,t)

section Layers

omit [DecidableEq ι] in
theorem TablesSound.same {w v : PagedRun ι α} (h : TablesSound w) (k : SameTables w v) :
    TablesSound v where
  total := k.blockManager ▸ h.total
  apart := by
    rw [k.request]
    refine ⟨fun i => ?_,h.apart.apart⟩
    obtain ⟨hg,hgb,hc,hcb⟩ := h.apart.owned i
    constructor <;> simp only [k.blockManager, k.swappedRequests]
    · exact hg
    · exact hgb
    · exact hc
    · exact hcb

structure Launched (w v : PagedRun ι α) (layer : Fin gpt2NLayers) (rows : List (ι × ℕ)) :
    Prop where
  same : SameTables w v
  kept : ∀ key, Kept w key → Kept v key
  stored : ∀ r ∈ rows, Kept v (r.1,layer,r.2)

variable {w v : PagedRun ι α} {batch : List ι} {qkv : Fin gpt2NLayers → Memory α}
  {layer : Fin gpt2NLayers}

theorem append_launched (h : TablesSound w) {rows : List (ι × ℕ)} {slots : List (ℕ × ℕ)}
    (hd : rows.Nodup) (hslots : SlotsAt w.request layer rows slots) (m : Memory α) :
    Launched w (w.appendRows layer rows m slots) layer rows where
  same := ⟨rfl,rfl,rfl⟩
  kept := append_rows_all (h.apart.tables h.total) hslots hd
  stored := append_rows_kept (h.apart.tables h.total) hslots hd

theorem prefill_launched (h : TablesSound w) (hb : batch.Nodup)
    (hv : prefillLayer batch qkv layer w = some v) :
    Launched w v layer (promptRows w.request batch) := by
  obtain ⟨slots,hslots,rfl⟩ := Option.map_eq_some_iff.mp hv
  exact append_launched h (prompt_rows_nodup hb) (make_tables_slots hslots) _

theorem decode_launched (h : TablesSound w) (hb : batch.Nodup)
    (hv : decodeLayer batch qkv layer w = some v) :
    Launched w v layer (nextRows w.request batch layer) := by
  obtain ⟨slots,hslots,rfl⟩ := Option.map_eq_some_iff.mp hv
  exact append_launched h (next_rows_nodup hb) (decode_tables_slots hslots) _

omit [DecidableEq ι] in
/-- The loop over the layers stores the rows of each layer and keeps what it had. -/
theorem run_layers_launched
    (step : Fin gpt2NLayers → PagedRun ι α → Option (PagedRun ι α))
    (rows : Fin gpt2NLayers → List (ι × ℕ))
    (hstep : ∀ l u u', SameTables w u → step l u = some u' → Launched u u' l (rows l))
    (layers : List (Fin gpt2NLayers)) (u : PagedRun ι α) (hu : SameTables w u)
    (hv : runLayers step layers u = some v) : SameTables w v ∧
      (∀ key, Kept u key → Kept v key) ∧ ∀ l ∈ layers, ∀ r ∈ rows l, Kept v (r.1,l,r.2) := by
  induction layers generalizing u with
  | nil =>
    obtain rfl := Option.some.inj hv
    exact ⟨hu,fun _ hk => hk,by simp⟩
  | cons l layers ih =>
    obtain ⟨u',hu',hrest⟩ := Option.bind_eq_some_iff.mp hv
    have hone := hstep l u u' hu hu'
    have hsame : SameTables w u' := ⟨hone.same.request.trans hu.request,
      hone.same.blockManager.trans hu.blockManager,
      hone.same.swappedRequests.trans hu.swappedRequests⟩
    obtain ⟨hv',hkept,hstored⟩ := ih u' hsame hrest
    refine ⟨hv',fun key hk => hkept key (hone.kept key hk),?_⟩
    intro k hk r hr
    rcases List.mem_cons.mp hk with rfl | hk
    · exact hkept _ (hone.stored r hr)
    · exact hstored k hk r hr

theorem prefill_layers (h : TablesSound w) (hb : batch.Nodup) (layers : List (Fin gpt2NLayers))
    (hv : runLayers (prefillLayer batch qkv) layers w = some v) : SameTables w v ∧
      (∀ key, Kept w key → Kept v key) ∧
      ∀ l ∈ layers, ∀ r ∈ promptRows w.request batch, Kept v (r.1,l,r.2) := by
  apply run_layers_launched _ (fun _ => promptRows w.request batch) _ layers w ⟨rfl,rfl,rfl⟩ hv
  intro l u u' hu hu'
  have hone := prefill_launched (h.same hu) hb hu'
  rwa [hu.request] at hone

theorem decode_layers (h : TablesSound w) (hb : batch.Nodup) (layers : List (Fin gpt2NLayers))
    (hv : runLayers (decodeLayer batch qkv) layers w = some v) : SameTables w v ∧
      (∀ key, Kept w key → Kept v key) ∧
      ∀ l ∈ layers, ∀ r ∈ nextRows w.request batch l, Kept v (r.1,l,r.2) := by
  apply run_layers_launched _ (nextRows w.request batch) _ layers w ⟨rfl,rfl,rfl⟩ hv
  intro l u u' hu hu'
  have hone := decode_launched (h.same hu) hb hu'
  rwa [hu.request] at hone

end Layers

end MiniLlm
