import MiniLlm.ForwardPass
import MiniLlm.TokenText

/-!
# The weight files

`scripts/export_weights.py` saves every weight of the checkpoint as a file of
32-bit floats, and `load_weights` reads the files into `GPT2Weights`. The two
go through the weights in different orders. A number in a file is its four
bytes in memory.
-/

set_option autoImplicit false

namespace MiniLlm.WeightFiles

def asciiText (s : String) : List UInt8 := s.toList.map Char.toUInt8

inductive LayerWeight where
  | ln1W | ln1B | qkvW | qkvB | outW | outB | ln2W | ln2B | fc1W | fc1B | fc2W | fc2B
  deriving DecidableEq, Repr

/-- The fields of `GPT2Weights` that have a file. -/
inductive Weight where
  | wte | wpe
  | layer (l : Fin gpt2NLayers) (w : LayerWeight)
  | lnFW | lnFB
  deriving DecidableEq, Repr

namespace LayerWeight

def key : LayerWeight → String
  | ln1W => "ln_1.weight"
  | ln1B => "ln_1.bias"
  | ln2W => "ln_2.weight"
  | ln2B => "ln_2.bias"
  | qkvW => "attn.c_attn.weight"
  | qkvB => "attn.c_attn.bias"
  | outW => "attn.c_proj.weight"
  | outB => "attn.c_proj.bias"
  | fc1W => "mlp.c_fc.weight"
  | fc1B => "mlp.c_fc.bias"
  | fc2W => "mlp.c_proj.weight"
  | fc2B => "mlp.c_proj.bias"

def savedStem : LayerWeight → String
  | ln1W => "ln1_w_"
  | ln1B => "ln1_b_"
  | ln2W => "ln2_w_"
  | ln2B => "ln2_b_"
  | qkvW => "qkv_w_"
  | qkvB => "qkv_b_"
  | outW => "out_w_"
  | outB => "out_b_"
  | fc1W => "fc1_w_"
  | fc1B => "fc1_b_"
  | fc2W => "fc2_w_"
  | fc2B => "fc2_b_"

/-- The format that `load_weights` prints the layer into, up to there. -/
def loadedStem : LayerWeight → String
  | ln1W => "ln1_w_"
  | ln1B => "ln1_b_"
  | qkvW => "qkv_w_"
  | qkvB => "qkv_b_"
  | outW => "out_w_"
  | outB => "out_b_"
  | ln2W => "ln2_w_"
  | ln2B => "ln2_b_"
  | fc1W => "fc1_w_"
  | fc1B => "fc1_b_"
  | fc2W => "fc2_w_"
  | fc2B => "fc2_b_"

/-- How many floats `load_weights` asks for. -/
def count : LayerWeight → ℕ
  | ln1W => gpt2DModel
  | ln1B => gpt2DModel
  | qkvW => 3*gpt2DModel*gpt2DModel
  | qkvB => 3*gpt2DModel
  | outW => gpt2DModel*gpt2DModel
  | outB => gpt2DModel
  | ln2W => gpt2DModel
  | ln2B => gpt2DModel
  | fc1W => gpt2DFf*gpt2DModel
  | fc1B => gpt2DFf
  | fc2W => gpt2DModel*gpt2DFf
  | fc2B => gpt2DModel

def exported : List LayerWeight :=
  [ln1W,ln1B,ln2W,ln2B,qkvW,qkvB,outW,outB,fc1W,fc1B,fc2W,fc2B]

/-- The order of `load_weights`. -/
def loaded : List LayerWeight :=
  [ln1W,ln1B,qkvW,qkvB,outW,outB,ln2W,ln2B,fc1W,fc1B,fc2W,fc2B]

end LayerWeight

/-- `snprintf` into a buffer of that size, without the terminating byte. -/
def snprintf (size : ℕ) (text : List UInt8) : List UInt8 := text.take (size-1)

namespace Weight

def key : Weight → List UInt8
  | wte => asciiText "wte.weight"
  | wpe => asciiText "wpe.weight"
  | layer l w => asciiText "h."++(digitsText l++46::asciiText w.key)
  | lnFW => asciiText "ln_f.weight"
  | lnFB => asciiText "ln_f.bias"

def savedName : Weight → List UInt8
  | wte => asciiText "wte.bin"
  | wpe => asciiText "wpe.bin"
  | layer l w => asciiText w.savedStem++(digitsText l++asciiText ".bin")
  | lnFW => asciiText "ln_f_w.bin"
  | lnFB => asciiText "ln_f_b.bin"

def loadedName : Weight → List UInt8
  | wte => asciiText "wte.bin"
  | wpe => asciiText "wpe.bin"
  | layer l w => snprintf 64 (asciiText w.loadedStem++(digitsText l++asciiText ".bin"))
  | lnFW => asciiText "ln_f_w.bin"
  | lnFB => asciiText "ln_f_b.bin"

def count : Weight → ℕ
  | wte => gpt2VocabSize*gpt2DModel
  | wpe => maxSeq*gpt2DModel
  | layer _ w => w.count
  | lnFW => gpt2DModel
  | lnFB => gpt2DModel

def exportOrder : List Weight :=
  [wte,wpe]++(List.finRange gpt2NLayers).flatMap (LayerWeight.exported.map ∘ layer)++[lnFW,lnFB]

def loadOrder : List Weight :=
  [wte,wpe]++(List.finRange gpt2NLayers).flatMap (LayerWeight.loaded.map ∘ layer)++[lnFW,lnFB]

end Weight

structure Float32Bytes where
  b0 : UInt8
  b1 : UInt8
  b2 : UInt8
  b3 : UInt8
  deriving DecidableEq, Repr

def Float32Bytes.bytes (x : Float32Bytes) : List UInt8 := [x.b0,x.b1,x.b2,x.b3]

/-- `ndarray.tofile` -/
def tofile (arr : List Float32Bytes) : List UInt8 := arr.flatMap Float32Bytes.bytes

/-- The floats that `fread` finds in a file; less than four bytes at the end are none. -/
def freadFloats : List UInt8 → List Float32Bytes
  | b0::b1::b2::b3::rest => ⟨b0,b1,b2,b3⟩::freadFloats rest
  | _ => []

abbrev FileSystem := List UInt8 → Option (List UInt8)

section Export

variable {α : Type*}

/-- `save`; `dir` is the `weights` directory of the repository, as in `load_weights`. -/
def save (dir : List UInt8) (astype : α → Float32Bytes) (arr : List α) (name : List UInt8)
    (files : FileSystem) : FileSystem :=
  Function.update files (dir++47::name) (some (tofile (arr.map astype)))

/-- A line of the script; `none` is a `KeyError`. -/
def exportWeight (dir : List UInt8) (astype : α → Float32Bytes)
    (stateDict : List UInt8 → Option (List α)) (files : FileSystem) (w : Weight) :
    Option FileSystem :=
  (stateDict w.key).map fun arr => save dir astype arr w.savedName files

/-- The script, from what `state_dict` returns, an array of any shape as the list of its elements
in C order. -/
def exportWeights (dir : List UInt8) (astype : α → Float32Bytes)
    (stateDict : List UInt8 → Option (List α)) (files : FileSystem) : Option FileSystem :=
  Weight.exportOrder.foldlM (exportWeight dir astype stateDict) files

end Export

/-- The exits of `load_bin`. -/
inductive LoadError where
  | cannotOpen (path : List UInt8)
  | hostMalloc (path : List UInt8)
  | sizeMismatch (path : List UInt8) (expected read : ℕ)
  deriving DecidableEq, Repr

def LoadError.path : LoadError → List UInt8
  | cannotOpen path => path
  | hostMalloc path => path
  | sizeMismatch path _ _ => path

def LoadError.message : LoadError → List UInt8
  | cannotOpen path => asciiText "Cannot open weight file: "++path
  | hostMalloc path => asciiText "Host malloc failed for weight file: "++path
  | sizeMismatch path expected read => asciiText "Weight file size mismatch: "++path++
      asciiText ", expected="++digitsText expected++asciiText ", read="++digitsText read

/-- Where `load_weights` runs: the files, and which sizes `malloc` has memory for. -/
structure Host where
  files : FileSystem
  mallocs : ℕ → Bool

/-- `load_bin`, up to the copy to the device. -/
def loadBin (host : Host) (path : List UInt8) (n : ℕ) : Except LoadError (List Float32Bytes) :=
  match host.files path with
  | none => .error (.cannotOpen path)
  | some bytes =>
    if host.mallocs (n*4) then
      let h := (freadFloats bytes).take n
      if h.length ≠ n then .error (.sizeMismatch path n h.length) else .ok h
    else .error (.hostMalloc path)

/-- The path that `LOAD` prints. -/
def Weight.path (dir : List UInt8) (w : Weight) : List UInt8 := snprintf 512 (dir++47::w.loadedName)

/-- `LOAD` -/
def loadWeight (dir : List UInt8) (host : Host) (W : Weight → List Float32Bytes) (w : Weight) :
    Except LoadError (Weight → List Float32Bytes) :=
  (loadBin host (w.path dir) w.count).map (Function.update W w)

/-- `load_weights`, from a `W` that is not initialised and without `wte_t`. -/
def loadWeights (dir : List UInt8) (host : Host) (W : Weight → List Float32Bytes) :
    Except LoadError (Weight → List Float32Bytes) :=
  Weight.loadOrder.foldlM (loadWeight dir host) W

section Names

theorem digits_text_split {l l' : ℕ} {b b' : UInt8} {rest rest' : List UInt8}
    (hb : isDigit b = false) (hb' : isDigit b' = false)
    (h : digitsText l++b::rest = digitsText l'++b'::rest') : l = l' ∧ b::rest = b'::rest' := by
  have htake (n : ℕ) {c : UInt8} (hc : isDigit c = false) (more : List UInt8) :
      (digitsText n++c::more).takeWhile isDigit = digitsText n := by
    rw [List.takeWhile_append_of_pos (digits_text_digits n),
      List.takeWhile_cons_of_neg (by simp [hc]), List.append_nil]
  have hdigits : digitsText l = digitsText l' := by
    rw [← htake l hb rest, h, htake l' hb' rest']
  have hl : l = l' := by
    rw [← digits_text_value l, hdigits, digits_text_value]
  rw [hdigits] at h
  exact ⟨hl,List.append_cancel_left h⟩

/-- Of the names of a layer the first six bytes say which weight it is and the digits say which
layer. -/
theorem layer_name_inj {l l' : ℕ} {w w' : LayerWeight}
    (h : asciiText w.savedStem++(digitsText l++asciiText ".bin") =
      asciiText w'.savedStem++(digitsText l'++asciiText ".bin")) : l = l' ∧ w = w' := by
  have hlength (v : LayerWeight) : (asciiText v.savedStem).length = 6 := by
    cases v <;> rfl
  obtain ⟨hstem,hrest⟩ := List.append_inj h ((hlength w).trans (hlength w').symm)
  refine ⟨(digits_text_split rfl rfl hrest).1,?_⟩
  revert hstem
  cases w <;> cases w' <;> decide

theorem saved_name_inj : Function.Injective Weight.savedName := by
  have hlayer (l : ℕ) (w : LayerWeight) (name : String)
      (hname : (asciiText name).take 6 ≠ asciiText w.savedStem) :
      asciiText name ≠ asciiText w.savedStem++(digitsText l++asciiText ".bin") := by
    intro h
    apply hname
    rw [h]
    cases w <;> rfl
  intro w w' h
  cases w <;> cases w'
  case layer.layer l v l' v' =>
    obtain ⟨hl,rfl⟩ := layer_name_inj h
    rw [Fin.ext hl]
  case layer.wte l v | layer.wpe l v | layer.lnFW l v | layer.lnFB l v =>
    exact absurd h.symm (hlayer l v _ (by cases v <;> decide))
  case wte.layer l v | wpe.layer l v | lnFW.layer l v | lnFB.layer l v =>
    exact absurd h (hlayer l v _ (by cases v <;> decide))
  all_goals first | rfl | exact absurd h (by decide)

theorem layer_digits (l : Fin gpt2NLayers) : (digitsText l).length ≤ 2 := by
  revert l
  decide +kernel

theorem saved_name_length (w : Weight) : w.savedName.length ≤ 12 := by
  cases w with
  | layer l w =>
    have hstem : (asciiText w.savedStem).length = 6 := by
      cases w <;> rfl
    have hdigits := layer_digits l
    rw [Weight.savedName, List.length_append, List.length_append, hstem]
    have hsuffix : (asciiText ".bin").length = 4 := rfl
    omega
  | _ => decide

/-- The two sides agree on the names, and no name is cut. -/
theorem loaded_name_saved (w : Weight) : w.loadedName = w.savedName := by
  have hlength := saved_name_length w
  cases w with
  | layer l v =>
    have hstem : v.loadedStem = v.savedStem := by
      cases v <;> rfl
    rw [Weight.loadedName, hstem]
    exact List.take_of_length_le (hlength.trans (by decide))
  | _ => rfl

variable {dir : List UInt8} (hdir : dir.length+13 < 512)

include hdir

theorem path_saved (w : Weight) : w.path dir = dir++47::w.savedName := by
  have hlength := saved_name_length w
  rw [Weight.path, loaded_name_saved]
  apply List.take_of_length_le
  rw [List.length_append, List.length_cons]
  omega

end Names

theorem mem_export_order (w : Weight) : w ∈ Weight.exportOrder := by
  cases w with
  | layer l w => cases w <;> simp [Weight.exportOrder, LayerWeight.exported]
  | _ => simp [Weight.exportOrder]

theorem mem_load_order (w : Weight) : w ∈ Weight.loadOrder := by
  cases w with
  | layer l w => cases w <;> simp [Weight.loadOrder, LayerWeight.loaded]
  | _ => simp [Weight.loadOrder]

section Floats

theorem fread_tofile (arr : List Float32Bytes) : freadFloats (tofile arr) = arr := by
  induction arr with
  | nil => rfl
  | cons x arr ih => exact congrArg (x::·) ih

theorem fread_length (bytes : List UInt8) : (freadFloats bytes).length = bytes.length/4 := by
  induction bytes using freadFloats.induct with
  | case1 b0 b1 b2 b3 rest ih =>
    rw [freadFloats, List.length_cons, ih]
    simp only [List.length_cons]
    omega
  | case2 bytes h =>
    have hshort : bytes.length < 4 := by
      match bytes, h with
      | b0::b1::b2::b3::rest, h => exact absurd rfl (h b0 b1 b2 b3 rest)
      | [], _ | [_], _ | [_,_], _ | [_,_,_], _ => simp
    rw [freadFloats, Nat.div_eq_of_lt hshort]
    · rfl
    · exact h

end Floats

section Export

variable {α : Type*} (dir : List UInt8) (astype : α → Float32Bytes)
  {stateDict : List UInt8 → Option (List α)} {arr : Weight → List α}

theorem saves_files (hdict : ∀ w, stateDict w.key = some (arr w)) (ws : List Weight)
    (files : FileSystem) :
    ∃ files', ws.foldlM (exportWeight dir astype stateDict) files = some files' ∧
      (∀ w ∈ ws, files' (dir++47::w.savedName) = some (tofile ((arr w).map astype))) ∧
      ∀ path, (∀ w ∈ ws, path ≠ dir++47::w.savedName) → files' path = files path := by
  induction ws generalizing files with
  | nil => exact ⟨files,rfl,fun w hw => absurd hw List.not_mem_nil,fun _ _ => rfl⟩
  | cons w ws ih =>
    obtain ⟨files',hrun,hsaved,hothers⟩ := ih (save dir astype (arr w) w.savedName files)
    refine ⟨files',?_,?_,?_⟩
    · rw [List.foldlM_cons, exportWeight, hdict]
      exact hrun
    · intro v hv
      by_cases hlater : v ∈ ws
      · exact hsaved v hlater
      · obtain rfl := (List.mem_cons.mp hv).resolve_right hlater
        rw [hothers _ fun u hu heq => hlater ?_]
        · exact Function.update_self ..
        · have hname := List.tail_eq_of_cons_eq (List.append_cancel_left heq)
          rwa [saved_name_inj hname]
    · intro path hpath
      rw [List.forall_mem_cons] at hpath
      rw [hothers path hpath.2]
      exact Function.update_of_ne hpath.1 _ _

theorem export_files (hdict : ∀ w, stateDict w.key = some (arr w)) (files : FileSystem) :
    ∃ files', exportWeights dir astype stateDict files = some files' ∧
      (∀ w : Weight, files' (dir++47::w.savedName) = some (tofile ((arr w).map astype))) ∧
      ∀ path, (∀ w : Weight, path ≠ dir++47::w.savedName) → files' path = files path := by
  obtain ⟨files',hrun,hsaved,hothers⟩ :=
    saves_files dir astype hdict Weight.exportOrder files
  exact ⟨files',hrun,fun w => hsaved w (mem_export_order w),
    fun path hpath => hothers path fun w _ => hpath w⟩

end Export

section Load

variable (dir : List UInt8) (host : Host)

def Readable (w : Weight) : Prop :=
  ∃ bytes, host.files (w.path dir) = some bytes ∧ host.mallocs (w.count*4) = true ∧
    w.count*4 ≤ bytes.length

def contents (w : Weight) : List Float32Bytes :=
  (freadFloats ((host.files (w.path dir)).getD [])).take w.count

inductive Refused (w : Weight) : LoadError → Prop
  | missing (h : host.files (w.path dir) = none) : Refused w (.cannotOpen (w.path dir))
  | memory (bytes : List UInt8) (h : host.files (w.path dir) = some bytes)
      (hmalloc : host.mallocs (w.count*4) = false) : Refused w (.hostMalloc (w.path dir))
  | short (bytes : List UInt8) (h : host.files (w.path dir) = some bytes)
      (hmalloc : host.mallocs (w.count*4) = true) (hshort : bytes.length < w.count*4) :
      Refused w (.sizeMismatch (w.path dir) w.count (bytes.length/4))

theorem Refused.not_readable {dir : List UInt8} {host : Host} {w : Weight} {e : LoadError}
    (h : Refused dir host w e) : ¬Readable dir host w := by
  rintro ⟨bytes,hbytes,hmalloc,hlength⟩
  cases h with
  | missing h =>
    rw [h] at hbytes
    cases hbytes
  | memory _ _ h =>
    rw [h] at hmalloc
    cases hmalloc
  | short bytes' h _ hshort =>
    rw [h] at hbytes
    cases hbytes
    omega

theorem Refused.printed {dir : List UInt8} {host : Host} {w : Weight} {e : LoadError}
    (h : Refused dir host w e) : w.path dir = e.path ∧ e.path <:+: e.message := by
  cases h with
  | missing => exact ⟨rfl,(List.suffix_append ..).isInfix⟩
  | memory => exact ⟨rfl,(List.suffix_append ..).isInfix⟩
  | short =>
    refine ⟨rfl,?_⟩
    simp only [LoadError.message, LoadError.path, List.append_assoc]
    exact List.infix_append' ..

theorem load_bin_cases (w : Weight) :
    (Readable dir host w ∧ loadBin host (w.path dir) w.count = .ok (contents dir host w)) ∨
    ∃ e, Refused dir host w e ∧ loadBin host (w.path dir) w.count = .error e := by
  unfold loadBin
  cases hfile : host.files (w.path dir) with
  | none => exact .inr ⟨_,.missing hfile,rfl⟩
  | some bytes =>
    cases hmalloc : host.mallocs (w.count*4) with
    | false => exact .inr ⟨_,.memory bytes hfile hmalloc,rfl⟩
    | true =>
      have hread : ((freadFloats bytes).take w.count).length = min w.count (bytes.length/4) := by
        rw [List.length_take, fread_length]
      dsimp only
      rw [if_pos rfl, hread]
      by_cases hlength : w.count*4 ≤ bytes.length
      · left
        rw [if_neg (by omega)]
        refine ⟨⟨bytes,hfile,hmalloc,hlength⟩,?_⟩
        rw [contents, hfile]
        rfl
      · right
        have hmin : min w.count (bytes.length/4) = bytes.length/4 := by omega
        rw [hmin, if_pos (by omega)]
        exact ⟨_,.short bytes hfile hmalloc (Nat.lt_of_not_le hlength),rfl⟩

/-- The weights are loaded in turn, up to the first that is refused. -/
theorem loads_cases (ws : List Weight) (W : Weight → List Float32Bytes) :
    ((∀ w ∈ ws, Readable dir host w) ∧ ws.foldlM (loadWeight dir host) W =
      .ok fun w => if w ∈ ws then contents dir host w else W w) ∨
    ∃ before w after e, ws = before++w::after ∧ (∀ v ∈ before, Readable dir host v) ∧
      Refused dir host w e ∧ ws.foldlM (loadWeight dir host) W = .error e := by
  induction ws generalizing W with
  | nil => exact .inl ⟨fun w hw => absurd hw List.not_mem_nil,by simp; rfl⟩
  | cons w ws ih =>
    rw [List.foldlM_cons]
    obtain ⟨hreadable,hload⟩ | ⟨e,hrefused,hload⟩ := load_bin_cases dir host w
    · have hturn : loadWeight dir host W w =
          .ok (Function.update W w (contents dir host w)) := by
        rw [loadWeight, hload]
        rfl
      rw [hturn]
      obtain ⟨hall,hrun⟩ | ⟨before,v,after,e,rfl,hbefore,hrefused,hrun⟩ :=
        ih (Function.update W w (contents dir host w))
      · refine .inl ⟨List.forall_mem_cons.mpr ⟨hreadable,hall⟩,hrun.trans (congrArg _ ?_)⟩
        funext v
        by_cases hv : v = w
        · simp [hv]
        · simp [hv]
      · have hwhole := List.forall_mem_cons.mpr ⟨hreadable,hbefore⟩
        exact .inr ⟨w::before,v,after,e,rfl,hwhole,hrefused,hrun⟩
    · refine .inr ⟨[],w,ws,e,rfl,fun v hv => absurd hv List.not_mem_nil,hrefused,?_⟩
      rw [loadWeight, hload]
      rfl

end Load

theorem load_weights_cases (dir : List UInt8) (host : Host) (W : Weight → List Float32Bytes) :
    ((∀ w, Readable dir host w) ∧ loadWeights dir host W = .ok (contents dir host)) ∨
    ∃ before w after e, Weight.loadOrder = before++w::after ∧
      (∀ v ∈ before, Readable dir host v) ∧ Refused dir host w e ∧
      loadWeights dir host W = .error e := by
  obtain ⟨hall,hrun⟩ | hrefused := loads_cases dir host Weight.loadOrder W
  · refine .inl ⟨fun w => hall w (mem_load_order w),hrun.trans (congrArg _ ?_)⟩
    funext w
    rw [if_pos (mem_load_order w)]
  · exact .inr hrefused

/-- Loading asks no more of the files than that each is long enough and takes the first floats of
each. What it reports is the first one that is not, in its order. -/
theorem load_outcome (dir : List UInt8) (host : Host) (W : Weight → List Float32Bytes) :
    ((∃ loaded, loadWeights dir host W = .ok loaded) ↔ ∀ w, Readable dir host w) ∧
    (∀ loaded, loadWeights dir host W = .ok loaded → loaded = contents dir host) ∧
    ∀ e, loadWeights dir host W = .error e → ∃ before w after,
      Weight.loadOrder = before++w::after ∧ (∀ v ∈ before, Readable dir host v) ∧
      Refused dir host w e := by
  obtain ⟨hall,hload⟩ | ⟨before,w,after,e,horder,hbefore,hrefused,hload⟩ :=
    load_weights_cases dir host W
  · rw [hload]
    refine ⟨⟨fun _ => hall,fun _ => ⟨_,rfl⟩⟩,fun loaded h => ?_,fun e h => ?_⟩
    · cases h
      rfl
    · cases h
  · rw [hload]
    refine ⟨⟨fun ⟨loaded,h⟩ => ?_,fun hall => ?_⟩,fun loaded h => ?_,fun e' h => ?_⟩
    · cases h
    · exact absurd (hall w) hrefused.not_readable
    · cases h
    · cases h
      exact ⟨before,w,after,horder,hbefore,hrefused⟩

/-- Nothing is read from an empty directory but the first name. -/
theorem nothing_exported :
    ∃ before w after, Weight.loadOrder = before++w::after ∧
      (∀ v ∈ before, Readable (asciiText "weights") ⟨fun _ => none,fun _ => true⟩ v) ∧
      Refused (asciiText "weights") ⟨fun _ => none,fun _ => true⟩ w
        (.cannotOpen (asciiText "weights/wte.bin")) :=
  (load_outcome (asciiText "weights") ⟨fun _ => none,fun _ => true⟩ fun _ => []).2.2 _ rfl

end MiniLlm.WeightFiles
