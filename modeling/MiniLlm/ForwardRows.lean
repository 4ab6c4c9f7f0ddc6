import MiniLlm.ForwardPass

/-!
# Two forward passes side by side

Some rows of one call are the same as some rows of another. The kernels that
work row by row keep that, the append kernel brings the K and V of such rows
into the slots of both, and what is in other slots stays. So it only remains
to show it of attention.
-/

set_option autoImplicit false

namespace MiniLlm

open FlatMemory RowBuffers

section Cached

def SameSlot (p q : Memory ℝ) (slot slot' : ℕ × ℕ) : Prop :=
  ∀ c < gpt2DModel, p (dstBase slot+c) = q (dstBase slot'+c) ∧
    p (vPool+(dstBase slot+c)) = q (vPool+(dstBase slot'+c))

/-- Position `t` of one cache and position `t'` of the other have slots, with the same K and V. -/
def SamePosition (p q : Memory ℝ) (kv kv' : PagedKVCache) (t t' : ℕ) : Prop :=
  ∃ slot slot', tokenSlot kv t = some slot ∧ tokenSlot kv' t' = some slot' ∧
    SameSlot p q slot slot'

def SameCached (p q : Memory ℝ) (kv kv' : PagedKVCache) (n : ℕ) : Prop :=
  ∀ t < n, SamePosition p q kv kv' t t

variable {ι ι' : Type*} {request : ι → Request} {request' : ι' → Request}
  {layer : Fin gpt2NLayers} {rows : List (ι × ℕ)} {rows' : List (ι' × ℕ)}
  {slots slots' : List (ℕ × ℕ)} (hapart : TablesApart request) (hapart' : TablesApart request')
  (hslots : SlotsAt request layer rows slots) (hslots' : SlotsAt request' layer rows' slots')
  (qkv qkv' p q : Memory ℝ)

include hapart hapart' hslots hslots'

theorem append_same (hd : rows.Nodup) (hd' : rows'.Nodup) {k k' : ℕ} {r : ι × ℕ} {r' : ι' × ℕ}
    (hk : rows[k]? = some r) (hk' : rows'[k']? = some r')
    (hrow : rowAt (3*gpt2DModel) qkv k = rowAt (3*gpt2DModel) qkv' k') :
    SamePosition (launchAppend slots qkv p) (launchAppend slots' qkv' q)
      ((request r.1).cache layer) ((request' r'.1).cache layer) r.2 r'.2 := by
  obtain ⟨slot,_,hkey⟩ := hslots.at hk
  obtain ⟨slot',_,hkey'⟩ := hslots'.at hk'
  refine ⟨slot,slot',hkey,hkey',fun c hc => ?_⟩
  obtain ⟨hkeys,hvalues⟩ := append_row_stored hapart hslots qkv p hd hk hkey hc
  obtain ⟨hkeys',hvalues'⟩ := append_row_stored hapart' hslots' qkv' q hd' hk' hkey' hc
  have hcell (e : ℕ) (he : e < 3*gpt2DModel) :
      qkv (k*(3*gpt2DModel)+e) = qkv' (k'*(3*gpt2DModel)+e) := congrFun hrow ⟨e,he⟩
  rw [hkeys, hkeys', hvalues, hvalues', keySource, keySource, valueSource, valueSource]
  constructor
  · have h := hcell (gpt2DModel+c) (by omega)
    rwa [← Nat.add_assoc, ← Nat.add_assoc, ← Nat.mul_assoc, ← Nat.mul_assoc] at h
  · have h := hcell (2*gpt2DModel+c) (by omega)
    rwa [← Nat.add_assoc, ← Nat.add_assoc, ← Nat.mul_assoc, ← Nat.mul_assoc] at h

theorem append_spares_same (key : TokenKey ι) (key' : TokenKey ι')
    (hother : ∀ r ∈ rows, key ≠ (r.1,layer,r.2)) (hother' : ∀ r ∈ rows', key' ≠ (r.1,layer,r.2))
    (h : SamePosition p q ((request key.1).cache key.2.1) ((request' key'.1).cache key'.2.1)
      key.2.2 key'.2.2) :
    SamePosition (launchAppend slots qkv p) (launchAppend slots' qkv' q)
      ((request key.1).cache key.2.1) ((request' key'.1).cache key'.2.1) key.2.2 key'.2.2 := by
  obtain ⟨slot,slot',hkey,hkey',hsame⟩ := h
  refine ⟨slot,slot',hkey,hkey',fun c hc => ?_⟩
  obtain ⟨hkeys,hvalues⟩ := append_row_spared hapart hslots qkv p hother hkey hc
  obtain ⟨hkeys',hvalues'⟩ := append_row_spared hapart' hslots' qkv' q hother' hkey' hc
  rw [hkeys, hkeys', hvalues, hvalues']
  exact hsame c hc

end Cached

section Layers

theorem over_layers_from {step step' : Fin gpt2NLayers → Buffers → Option Buffers}
    {R : ℕ → Buffers → Buffers → Prop}
    (hstep : ∀ (layer : Fin gpt2NLayers) b b', R layer b b' → ∃ c c',
      step layer b = some c ∧ step' layer b' = some c' ∧ R (layer+1) c c')
    (layers : List (Fin gpt2NLayers)) (start : ℕ)
    (horder : layers.map Fin.val = List.range' start layers.length) {b b' : Buffers}
    (h : R start b b') : ∃ c c', overLayers step layers b = some c ∧
      overLayers step' layers b' = some c' ∧ R (start+layers.length) c c' := by
  induction layers generalizing start b b' with
  | nil => exact ⟨b,b',rfl,rfl,h⟩
  | cons layer layers ih =>
    rw [List.map_cons, List.length_cons, List.range'_succ, List.cons.injEq] at horder
    obtain ⟨rfl,horder⟩ := horder
    obtain ⟨c,c',hc,hc',hR⟩ := hstep layer b b' h
    obtain ⟨e,e',he,he',hlast⟩ := ih (layer+1) horder hR
    refine ⟨e,e',?_,?_,?_⟩
    · rw [overLayers, hc]
      exact he
    · rw [overLayers, hc']
      exact he'
    · rwa [List.length_cons, Nat.add_comm layers.length, ← Nat.add_assoc]

theorem over_layers_same {step step' : Fin gpt2NLayers → Buffers → Option Buffers}
    {R : ℕ → Buffers → Buffers → Prop}
    (hstep : ∀ (layer : Fin gpt2NLayers) b b', R layer b b' → ∃ c c',
      step layer b = some c ∧ step' layer b' = some c' ∧ R (layer+1) c c')
    {b b' : Buffers} (h : R 0 b b') : ∃ c c',
      overLayers step (List.finRange gpt2NLayers) b = some c ∧
      overLayers step' (List.finRange gpt2NLayers) b' = some c' ∧ R gpt2NLayers c c' := by
  have horder : (List.finRange gpt2NLayers).map Fin.val =
      List.range' 0 (List.finRange gpt2NLayers).length := by decide
  have hrun := over_layers_from hstep (List.finRange gpt2NLayers) 0 horder h
  rwa [Nat.zero_add, List.length_finRange] at hrun

theorem over_layers_keep {step : Fin gpt2NLayers → Buffers → Option Buffers}
    {R : ℕ → Buffers → Prop}
    (hstep : ∀ (layer : Fin gpt2NLayers) b, R layer b → ∃ c, step layer b = some c ∧ R (layer+1) c)
    {b : Buffers} (h : R 0 b) :
    ∃ c, overLayers step (List.finRange gpt2NLayers) b = some c ∧ R gpt2NLayers c := by
  have hboth (layer : Fin gpt2NLayers) (e e' : Buffers) (he : R layer e ∧ R layer e') :
      ∃ c c', step layer e = some c ∧ step layer e' = some c' ∧ R (layer+1) c ∧ R (layer+1) c' := by
    obtain ⟨c,hc,hR⟩ := hstep layer e he.1
    obtain ⟨c',hc',hR'⟩ := hstep layer e' he.2
    exact ⟨c,c',hc,hc',hR,hR'⟩
  obtain ⟨c,_,hc,_,hR,_⟩ := over_layers_same (R := fun l e e' => R l e ∧ R l e') hboth ⟨h,h⟩
  exact ⟨c,hc,hR⟩

/-- Two launches of a layer do the same to `n` rows. What follows attention need not. -/
structure LayerLaunches.Alike (w w' : LayerLaunches) (n off off' : ℕ) (after : Prop) : Prop where
  ln1 : ∀ t < n, w.ln1 (off+t) = w'.ln1 (off'+t)
  qkv : w.qkv = w'.qkv
  out : w.out = w'.out
  ln2 : after → ∀ t < n, w.ln2 (off+t) = w'.ln2 (off'+t)
  fc1Gelu : w.fc1Gelu = w'.fc1Gelu
  fc2 : w.fc2 = w'.fc2

/-- So do those of all layers, where the last one matters up to its attention only. -/
structure Gpt2Launches.Alike (W W' : Gpt2Launches) (n off off' : ℕ) (last : Prop) : Prop where
  wte : W.wte = W'.wte
  wpe : W.wpe = W'.wpe
  layer : ∀ layer : Fin gpt2NLayers, (W.layer layer).Alike (W'.layer layer) n off off'
    ((layer:ℕ)+1 = gpt2NLayers → last)

theorem row_weights_alike (W : Gpt2Weights) (n off off' : ℕ) (last : Prop) :
    W.launches.Alike W.launches n off off' last :=
  ⟨rfl,rfl,fun _ => ⟨fun _ _ => rfl,rfl,rfl,fun _ _ _ => rfl,rfl,rfl⟩⟩

variable {W W' : Gpt2Launches} {layer : Fin gpt2NLayers} {n rows rows' off off' : ℕ}
  {b b' : Buffers} {after : Prop}

theorem project_append_same (h : (W.layer layer).Alike (W'.layer layer) n off off' after)
    (slots slots' : List (ℕ × ℕ)) (hx : SameRows gpt2DModel n b.x off b'.x off')
    (hr : off+n ≤ rows) (hr' : off'+n ≤ rows') :
    SameRows (3*gpt2DModel) n (projectAppend W layer rows slots b).qkv off
      (projectAppend W' layer rows' slots' b').qkv off' := by
  have hln := launch_indexed_fresh _ _ b.ln b'.ln hx h.ln1 hr hr'
  have hqkv := launch_rows_fresh (W.layer layer).qkv b.qkv b'.qkv hln hr hr'
  rw [projectAppend, projectAppend, ← h.qkv]
  exact hqkv

theorem feed_forward_same (h : (W.layer layer).Alike (W'.layer layer) n off off' after)
    (hafter : after) (hx : SameRows gpt2DModel n b.x off b'.x off')
    (hattn : SameRows gpt2DModel n b.attnOut off b'.attnOut off')
    (hr : off+n ≤ rows) (hr' : off'+n ≤ rows') :
    SameRows gpt2DModel n (feedForward W layer rows b).x off
      (feedForward W' layer rows' b').x off' := by
  have hout := launch_rows_same (residualAdd (W.layer layer).out) hattn hx hr hr'
  have hln := launch_indexed_fresh _ _ b.ln b'.ln hout (h.ln2 hafter) hr hr'
  have hff := launch_rows_fresh (W.layer layer).fc1Gelu b.ff b'.ff hln hr hr'
  have hfc2 := launch_rows_same (residualAdd (W.layer layer).fc2) hff hout hr hr'
  rw [feedForward, feedForward, ← h.out, ← h.fc1Gelu, ← h.fc2]
  exact hfc2

variable (W)

theorem embedding_row_get (ids positions : List ℤ) (x : Memory ℝ) {r : ℕ} {token position : ℤ}
    (hid : ids[r]? = some token) (hpos : positions[r]? = some position) :
    rowAt gpt2DModel (embeddingLookup W ids positions x) r = embeddingRow W token position := by
  ext c
  have hzip : (ids.zip positions)[r]? = some (token,position) :=
    List.getElem?_zip_eq_some.mpr ⟨hid,hpos⟩
  rw [rowAt, embeddingLookup, row_cell_div c.isLt, hzip]
  exact congrArg (embeddingRow W token position) (Fin.ext (row_cell_mod c.isLt))

end Layers

section Answers

variable (cmp : FloatComparison (WithBot ℝ)) {cols : ℕ} {row row' : ℕ → WithBot ℝ}

theorem scan_columns_congr (h : ∀ c < cols, row c = row' c) (n col : ℕ) (best : WithBot ℝ × ℕ) :
    scanColumns cmp row cols n col best = scanColumns cmp row' cols n col best := by
  induction n generalizing col best with
  | zero => rfl
  | succ n ih =>
    unfold scanColumns
    split
    · rw [h col (by assumption), ih]
    · rfl

theorem argmax_row_congr (h : ∀ c < cols, row c = row' c) :
    argmaxRow cmp row cols = argmaxRow cmp row' cols := by
  have hthreads : threadBest cmp row cols = threadBest cmp row' cols := by
    funext tid
    exact scan_columns_congr cmp h _ _ _
  rw [argmaxRow, argmaxRow, hthreads]

theorem model_answers_get (logits : ℕ → ℕ → WithBot ℝ) {reqs : List Request} {j : ℕ} {r : Request}
    (hj : reqs[j]? = some r) : (modelAnswers cmp logits reqs)[j]? =
      some (modelAnswer cmp logits r j) := by
  rw [modelAnswers, List.getElem?_map, List.getElem?_zipIdx, hj, Nat.zero_add]
  rfl

theorem answer_rows_same (W : Gpt2Weights) {reqs reqs' : List Request} {src src' : Memory ℝ}
    (b b' : Buffers) {j j' : ℕ} {r : Request} (hj : reqs[j]? = some r) (hj' : reqs'[j']? = some r)
    (hrow : rowAt gpt2DModel src j = rowAt gpt2DModel src' j') :
    ∃ resp, (answerRows W reqs src b).1[j]? = some resp ∧
      (answerRows W reqs' src' b').1[j']? = some resp := by
  have hsrc : SameRows gpt2DModel 1 src j src' j' := by
    intro t ht
    obtain rfl := Nat.lt_one_iff.mp ht
    exact hrow
  have hr : j+1 ≤ reqs.length := (List.getElem?_eq_some_iff.mp hj).1
  have hr' : j'+1 ≤ reqs'.length := (List.getElem?_eq_some_iff.mp hj').1
  have hln := launch_indexed_fresh W.launches.lnF W.launches.lnF b.ln b'.ln hsrc
    (fun _ _ => rfl) hr hr'
  have hlogits := launch_rows_fresh W.launches.logits b.logits b'.logits hln hr hr' 0 one_pos
  rw [Nat.add_zero, Nat.add_zero] at hlogits
  refine ⟨_,model_answers_get _ _ hj,?_⟩
  rw [answerRows, model_answers_get _ _ hj', modelAnswer, modelAnswer, argmax_row_congr]
  intro c hc
  have hcol := congrFun hlogits ⟨c,hc⟩
  simp only [rowAt] at hcol
  simp only [hcol]

end Answers

end MiniLlm
