import Mathlib.Data.Matrix.Mul
import MiniLlm.LoadedWeights
import MiniLlm.WeightFiles

/-!
# From the checkpoint to the kernels

The matrices of the checkpoint are saved in C order, without a transposition,
and go from the files to the device. There the linear layers multiply a row by
them from the right, as `Conv1D` does, and the logits are the products with
the rows of the token embedding.
-/

set_option autoImplicit false

namespace MiniLlm.WeightFiles

open FlatMemory RowBuffers

section Checkpoint

variable {α : Type*}

structure LayerArrays (α : Type*) where
  ln1W : Fin gpt2DModel → α
  ln1B : Fin gpt2DModel → α
  qkvW : Matrix (Fin gpt2DModel) (Fin (3*gpt2DModel)) α
  qkvB : Fin (3*gpt2DModel) → α
  outW : Matrix (Fin gpt2DModel) (Fin gpt2DModel) α
  outB : Fin gpt2DModel → α
  ln2W : Fin gpt2DModel → α
  ln2B : Fin gpt2DModel → α
  fc1W : Matrix (Fin gpt2DModel) (Fin gpt2DFf) α
  fc1B : Fin gpt2DFf → α
  fc2W : Matrix (Fin gpt2DFf) (Fin gpt2DModel) α
  fc2B : Fin gpt2DModel → α

structure Checkpoint (α : Type*) where
  wte : Matrix (Fin gpt2VocabSize) (Fin gpt2DModel) α
  wpe : Matrix (Fin maxSeq) (Fin gpt2DModel) α
  layer : Fin gpt2NLayers → LayerArrays α
  lnFW : Fin gpt2DModel → α
  lnFB : Fin gpt2DModel → α

def flattened {m n : ℕ} (A : Matrix (Fin m) (Fin n) α) : List α :=
  List.ofFn fun k : Fin (m*n) => A k.divNat k.modNat

def LayerArrays.elements (M : LayerArrays α) : LayerWeight → List α
  | .ln1W => List.ofFn M.ln1W
  | .ln1B => List.ofFn M.ln1B
  | .qkvW => flattened M.qkvW
  | .qkvB => List.ofFn M.qkvB
  | .outW => flattened M.outW
  | .outB => List.ofFn M.outB
  | .ln2W => List.ofFn M.ln2W
  | .ln2B => List.ofFn M.ln2B
  | .fc1W => flattened M.fc1W
  | .fc1B => List.ofFn M.fc1B
  | .fc2W => flattened M.fc2W
  | .fc2B => List.ofFn M.fc2B

def Checkpoint.elements (M : Checkpoint α) : Weight → List α
  | .wte => flattened M.wte
  | .wpe => flattened M.wpe
  | .layer l w => (M.layer l).elements w
  | .lnFW => List.ofFn M.lnFW
  | .lnFB => List.ofFn M.lnFB

theorem flattened_length {m n : ℕ} (A : Matrix (Fin m) (Fin n) α) :
    (flattened A).length = m*n := List.length_ofFn

theorem flattened_get {m n : ℕ} (A : Matrix (Fin m) (Fin n) α) (i : Fin m) (j : Fin n) :
    (flattened A)[(i*n+j : ℕ)]? = some (A i j) := by
  have hcell : i*n+j < m*n := by
    calc i*n+j < (i+1)*n := by
          rw [Nat.add_mul, Nat.one_mul]
          exact Nat.add_lt_add_left j.isLt _
      _ ≤ m*n := Nat.mul_le_mul_right _ i.isLt
  have hdiv : (⟨i*n+j,hcell⟩ : Fin (m*n)).divNat = i := Fin.ext (row_cell_div j.isLt)
  have hmod : (⟨i*n+j,hcell⟩ : Fin (m*n)).modNat = j := Fin.ext (row_cell_mod j.isLt)
  rw [flattened, List.getElem?_ofFn, dif_pos hcell, hdiv, hmod]

theorem elements_length (M : Checkpoint α) (w : Weight) : (M.elements w).length = w.count := by
  cases w with
  | layer l w =>
    cases w with
    | qkvW | fc1W => exact (flattened_length _).trans (Nat.mul_comm _ _)
    | outW | fc2W => exact (flattened_length _).trans (Nat.mul_comm _ _)
    | _ => exact List.length_ofFn
  | wte | wpe => exact flattened_length _
  | _ => exact List.length_ofFn

/-- What is loaded is what was saved, whatever was in the directory before. -/
theorem export_then_load (M : Checkpoint α) {dir : List UInt8} (hdir : dir.length+13 < 512)
    (astype : α → Float32Bytes) {stateDict : List UInt8 → Option (List α)}
    (hdict : ∀ w, stateDict w.key = some (M.elements w)) (files : FileSystem) {mallocs : ℕ → Bool}
    (hmallocs : ∀ w : Weight, mallocs (w.count*4) = true) (W : Weight → List Float32Bytes) :
    ∃ files', exportWeights dir astype stateDict files = some files' ∧
      loadWeights dir ⟨files',mallocs⟩ W = .ok fun w => (M.elements w).map astype := by
  obtain ⟨files',hexport,hsaved,_⟩ := export_files dir astype hdict files
  refine ⟨files',hexport,?_⟩
  have hfile (w : Weight) : files' (w.path dir) = some (tofile ((M.elements w).map astype)) := by
    rw [path_saved hdir, hsaved]
  have hread (w : Weight) : freadFloats (tofile ((M.elements w).map astype)) =
      (M.elements w).map astype := fread_tofile _
  have hlength (w : Weight) : ((M.elements w).map astype).length = w.count := by
    rw [List.length_map, elements_length]
  have hcontents (w : Weight) : contents dir ⟨files',mallocs⟩ w = (M.elements w).map astype := by
    have hfound : (files' (w.path dir)).getD [] = tofile ((M.elements w).map astype) := by
      rw [hfile]
      rfl
    rw [contents, hfound, hread]
    exact List.take_of_length_le (hlength w).le
  obtain ⟨_,hload⟩ | ⟨_,w,_,_,_,_,hrefused,_⟩ := load_weights_cases dir ⟨files',mallocs⟩ W
  · rw [hload, funext hcontents]
  · have hbytes := fread_length (tofile ((M.elements w).map astype))
    rw [hread, hlength] at hbytes
    exact absurd ⟨_,hfile w,hmallocs w,by omega⟩ hrefused.not_readable

end Checkpoint

section Device

variable (value : Float32Bytes → ℝ)

def memoryOf (h : List Float32Bytes) : Memory ℝ := fun a => (h[a]?.map value).getD 0

/-- The fields of `GPT2Weights` for a layer, from what `load_bin` returned. -/
def loadedLayer (W : LayerWeight → List Float32Bytes) : LoadedLayer where
  ln1W := memoryOf value (W .ln1W)
  ln1B := memoryOf value (W .ln1B)
  qkvW := memoryOf value (W .qkvW)
  qkvB := memoryOf value (W .qkvB)
  outW := memoryOf value (W .outW)
  outB := memoryOf value (W .outB)
  ln2W := memoryOf value (W .ln2W)
  ln2B := memoryOf value (W .ln2B)
  fc1W := memoryOf value (W .fc1W)
  fc1B := memoryOf value (W .fc1B)
  fc2W := memoryOf value (W .fc2W)
  fc2B := memoryOf value (W .fc2B)

def loadedWeights (W : Weight → List Float32Bytes) : LoadedWeights where
  wte := memoryOf value (W .wte)
  wpe := memoryOf value (W .wpe)
  layer l := loadedLayer value fun w => W (.layer l w)
  lnFW := memoryOf value (W .lnFW)
  lnFB := memoryOf value (W .lnFB)

variable {α : Type*} {astype : α → Float32Bytes} {h : List Float32Bytes}

theorem memory_matrix {m n : ℕ} {A : Matrix (Fin m) (Fin n) α} (hA : h = (flattened A).map astype)
    (i : Fin m) : rowAt n (memoryOf value h) i = A.map (value ∘ astype) i := by
  funext j
  rw [rowAt, memoryOf, hA, List.getElem?_map, flattened_get]
  rfl

theorem memory_vector {n : ℕ} {v : Fin n → α} (hv : h = (List.ofFn v).map astype) (j : Fin n) :
    memoryOf value h j = (value ∘ astype ∘ v) j := by
  rw [memoryOf, hv, List.getElem?_map, List.getElem?_ofFn, dif_pos j.isLt]
  rfl

end Device

section Kernels

/-- `Conv1D` -/
def conv1d {m n : ℕ} (weight : Matrix (Fin m) (Fin n) ℝ) (bias : Row n) (x : Row m) : Row n :=
  Matrix.vecMul x weight+bias

noncomputable def normalize (weight bias : Row gpt2DModel) (x : Row gpt2DModel) : Row gpt2DModel :=
  let mean := (∑ d, x d)/gpt2DModel
  let variance := (∑ d, (x d-mean)^2)/gpt2DModel
  fun d => (x d-mean)/Real.sqrt (variance+1e-5)*weight d+bias d

variable {m n : ℕ} {weight bias : Memory ℝ}

theorem linear_conv1d {A : Matrix (Fin m) (Fin n) ℝ} {b : Row n}
    (hweight : ∀ i : Fin m, rowAt n weight i = A i) (hbias : ∀ j : Fin n, bias j = b j) :
    (linear weight bias : Row m → Row n) = conv1d A b := by
  funext x j
  rw [linear, gemm, hbias, conv1d, Pi.add_apply, Matrix.vecMul, dotProduct]
  simp only [fun i => congrFun (hweight i) j]

theorem layernorm_normalize {γ β : Row gpt2DModel} (hweight : ∀ d : Fin gpt2DModel, weight d = γ d)
    (hbias : ∀ d : Fin gpt2DModel, bias d = β d) : layernorm weight bias = normalize γ β := by
  funext x d
  simp only [layernorm, normalize, hweight, hbias, div_eq_mul_inv, pow_two]

theorem logits_mul_vec {W : LoadedWeights} {E : Matrix (Fin gpt2VocabSize) (Fin gpt2DModel) ℝ}
    (hwte : ∀ t : Fin gpt2VocabSize, rowAt gpt2DModel W.wte t = E t) :
    W.rows.logits = Matrix.mulVec E := by
  funext x t
  simp only [LoadedWeights.rows, gemm, Matrix.mulVec, dotProduct]
  refine Finset.sum_congr rfl fun d _ => ?_
  rw [rowAt, transposeWte, row_cell_mod t.isLt, row_cell_div t.isLt, ← hwte, rowAt, mul_comm]

end Kernels

section Model

variable {α : Type*}

structure ComputesLayer (w : LayerRows) (M : LayerArrays α) (v : α → ℝ) : Prop where
  ln1 : w.ln1 = normalize (v ∘ M.ln1W) (v ∘ M.ln1B)
  qkv : w.qkv = conv1d (M.qkvW.map v) (v ∘ M.qkvB)
  out : w.out = conv1d (M.outW.map v) (v ∘ M.outB)
  ln2 : w.ln2 = normalize (v ∘ M.ln2W) (v ∘ M.ln2B)
  fc1Gelu : w.fc1Gelu = fun x j => geluOne (conv1d (M.fc1W.map v) (v ∘ M.fc1B) x j)
  fc2 : w.fc2 = conv1d (M.fc2W.map v) (v ∘ M.fc2B)

structure ComputesCheckpoint (W : Gpt2Weights) (M : Checkpoint α) (v : α → ℝ) : Prop where
  wte : ∀ t : Fin gpt2VocabSize, rowAt gpt2DModel W.wte t = M.wte.map v t
  wpe : ∀ t : Fin maxSeq, rowAt gpt2DModel W.wpe t = M.wpe.map v t
  layer : ∀ l, ComputesLayer (W.layer l) (M.layer l) v
  lnF : W.lnF = normalize (v ∘ M.lnFW) (v ∘ M.lnFB)
  logits : W.logits = Matrix.mulVec (M.wte.map v)

variable (value : Float32Bytes → ℝ) {astype : α → Float32Bytes}

theorem loaded_layer_computes {M : LayerArrays α} {W : LayerWeight → List Float32Bytes}
    (h : ∀ w, W w = (M.elements w).map astype) :
    ComputesLayer (loadedLayer value W).rows M (value ∘ astype) where
  ln1 := layernorm_normalize (memory_vector value (h .ln1W)) (memory_vector value (h .ln1B))
  qkv := linear_conv1d (memory_matrix value (h .qkvW)) (memory_vector value (h .qkvB))
  out := linear_conv1d (memory_matrix value (h .outW)) (memory_vector value (h .outB))
  ln2 := layernorm_normalize (memory_vector value (h .ln2W)) (memory_vector value (h .ln2B))
  fc1Gelu := by
    have hlinear := linear_conv1d (memory_matrix value (h .fc1W)) (memory_vector value (h .fc1B))
    funext x j
    exact congrArg geluOne (congrFun (congrFun hlinear x) j)
  fc2 := linear_conv1d (memory_matrix value (h .fc2W)) (memory_vector value (h .fc2B))

theorem loaded_computes {M : Checkpoint α} {W : Weight → List Float32Bytes}
    (h : ∀ w, W w = (M.elements w).map astype) :
    ComputesCheckpoint (loadedWeights value W).rows M (value ∘ astype) := by
  have hwte := memory_matrix value (h .wte)
  constructor
  · exact hwte
  · exact memory_matrix value (h .wpe)
  · exact fun l => loaded_layer_computes value fun w => h (.layer l w)
  · exact layernorm_normalize (memory_vector value (h .lnFW)) (memory_vector value (h .lnFB))
  · exact logits_mul_vec hwte

end Model

/-- The model that is served is the one that was exported: the files give back every float and the
kernels compute from them what the checkpoint's layers are. -/
theorem checkpoint_loaded {α : Type*} (M : Checkpoint α) {dir : List UInt8}
    (hdir : dir.length+13 < 512) (astype : α → Float32Bytes)
    {stateDict : List UInt8 → Option (List α)}
    (hdict : ∀ w, stateDict w.key = some (M.elements w)) (files : FileSystem) {mallocs : ℕ → Bool}
    (hmallocs : ∀ w : Weight, mallocs (w.count*4) = true) (W : Weight → List Float32Bytes)
    (value : Float32Bytes → ℝ) :
    ∃ files' loaded, exportWeights dir astype stateDict files = some files' ∧
      loadWeights dir ⟨files',mallocs⟩ W = .ok loaded ∧
      (∀ w, loaded w = (M.elements w).map astype) ∧
      ComputesCheckpoint (loadedWeights value loaded).rows M (value ∘ astype) := by
  obtain ⟨files',hexport,hload⟩ := export_then_load M hdir astype hdict files hmallocs W
  exact ⟨files',_,hexport,hload,fun _ => rfl,loaded_computes value fun _ => rfl⟩

section Witness

theorem layer_key_inj {l l' : ℕ} {w w' : LayerWeight}
    (h : asciiText "h."++(digitsText l++46::asciiText w.key) =
      asciiText "h."++(digitsText l'++46::asciiText w'.key)) : l = l' ∧ w = w' := by
  obtain ⟨hl,hkey⟩ := digits_text_split rfl rfl (List.append_cancel_left h)
  refine ⟨hl,?_⟩
  revert hkey
  cases w <;> cases w' <;> decide

theorem key_inj : Function.Injective Weight.key := by
  have hlayer (l : ℕ) (w : LayerWeight) (name : String)
      (hname : (asciiText name).take 2 ≠ asciiText "h.") :
      asciiText name ≠ asciiText "h."++(digitsText l++46::asciiText w.key) := by
    intro h
    apply hname
    rw [h]
    rfl
  intro w w' h
  cases w <;> cases w'
  case layer.layer l v l' v' =>
    obtain ⟨hl,rfl⟩ := layer_key_inj h
    rw [Fin.ext hl]
  case layer.wte l v | layer.wpe l v | layer.lnFW l v | layer.lnFB l v =>
    exact absurd h.symm (hlayer l v _ (by decide))
  case wte.layer l v | wpe.layer l v | lnFW.layer l v | lnFB.layer l v =>
    exact absurd h (hlayer l v _ (by decide))
  all_goals first | rfl | exact absurd h (by decide)

def Checkpoint.stateDict {α : Type*} (M : Checkpoint α) (key : List UInt8) : Option (List α) :=
  (Weight.exportOrder.find? (·.key = key)).map M.elements

theorem state_dict_key {α : Type*} (M : Checkpoint α) (w : Weight) :
    M.stateDict w.key = some (M.elements w) := by
  obtain ⟨v,hv⟩ : ∃ v, Weight.exportOrder.find? (·.key = w.key) = some v := by
    rw [← Option.isSome_iff_exists, List.find?_isSome]
    exact ⟨w,mem_export_order w,decide_eq_true rfl⟩
  have hfound := List.find?_some hv
  have hkey : v.key = w.key := of_decide_eq_true hfound
  rw [Checkpoint.stateDict, hv, ← key_inj hkey]
  rfl

def onesLayer : LayerArrays ℕ :=
  ⟨fun _ => 1,fun _ => 1,fun _ _ => 1,fun _ => 1,fun _ _ => 1,fun _ => 1,fun _ => 1,fun _ => 1,
    fun _ _ => 1,fun _ => 1,fun _ _ => 1,fun _ => 1⟩

def onesCheckpoint : Checkpoint ℕ :=
  ⟨fun _ _ => 1,fun _ _ => 1,fun _ => onesLayer,fun _ => 1,fun _ => 1⟩

def smallFloat (n : ℕ) : Float32Bytes := ⟨n.toUInt8,0,0,0⟩

theorem ones_loaded :
    ∃ files' loaded, exportWeights (asciiText "/mini-llm/weights") smallFloat
        onesCheckpoint.stateDict (fun _ => none) = some files' ∧
      loadWeights (asciiText "/mini-llm/weights") ⟨files',fun _ => true⟩ (fun _ => []) =
        .ok loaded ∧
      (∀ w, loaded w = (onesCheckpoint.elements w).map smallFloat) ∧
      ComputesCheckpoint (loadedWeights (fun x => (x.b0.toNat : ℝ)) loaded).rows onesCheckpoint
        ((fun x => (x.b0.toNat : ℝ)) ∘ smallFloat) :=
  checkpoint_loaded onesCheckpoint (by decide) smallFloat (state_dict_key onesCheckpoint)
    (fun _ => none) (fun _ => rfl) (fun _ => []) fun x => x.b0.toNat

end Witness

end MiniLlm.WeightFiles
