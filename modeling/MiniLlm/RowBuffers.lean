import MiniLlm.FlatMemory

/-!
# Buffers of rows

A kernel that works row by row is a function of a row. Two buffers agree on
some rows, wherever these lie in each of them, and such kernels keep that.
-/

set_option autoImplicit false

namespace MiniLlm.RowBuffers

open FlatMemory

variable {α : Type*} {w win wout rows n off off' : ℕ}

def rowAt (w : ℕ) (m : Memory α) (r : ℕ) : Fin w → α := fun c => m (r*w+c)

/-- A kernel that computes the first rows of `dst`, each from its number, the row of `src` and what
was in the row before. -/
def launchIndexed (rows : ℕ) (f : ℕ → (Fin win → α) → (Fin wout → α) → Fin wout → α)
    (src dst : Memory α) : Memory α := fun a =>
  if h : a < rows*wout then
    f (a/wout) (rowAt win src (a/wout)) (rowAt wout dst (a/wout))
      ⟨a%wout,Nat.mod_lt a (Nat.pos_of_lt_mul_left h)⟩
  else dst a

def launchRows (rows : ℕ) (f : (Fin win → α) → (Fin wout → α) → Fin wout → α)
    (src dst : Memory α) : Memory α := launchIndexed rows (fun _ => f) src dst

theorem row_cell_lt {r k c : ℕ} (hr : r < k) (hc : c < w) : r*w+c < k*w := by
  have hle := Nat.mul_le_mul_right w (Nat.succ_le_of_lt hr)
  rw [Nat.succ_mul] at hle
  omega

theorem row_cell_div {r c : ℕ} (hc : c < w) : (r*w+c)/w = r := by
  rw [Nat.mul_comm, Nat.mul_add_div (Nat.zero_lt_of_lt hc), Nat.div_eq_of_lt hc, Nat.add_zero]

theorem row_cell_mod {r c : ℕ} (hc : c < w) : (r*w+c)%w = c := by
  rw [Nat.mul_comm, Nat.mul_add_mod, Nat.mod_eq_of_lt hc]

theorem row_cell_eq {r r' c c' : ℕ} (hc : c < w) (hc' : c' < w) :
    r*w+c = r'*w+c' ↔ r = r' ∧ c = c' := by
  constructor
  · intro h
    constructor
    · rw [← row_cell_div (r := r) hc, h, row_cell_div hc']
    · rw [← row_cell_mod (r := r) hc, h, row_cell_mod hc']
  · rintro ⟨rfl,rfl⟩
    rfl

theorem launch_indexed_get (f : ℕ → (Fin win → α) → (Fin wout → α) → Fin wout → α)
    (src dst : Memory α) {r : ℕ} (hr : r < rows) :
    rowAt wout (launchIndexed rows f src dst) r = f r (rowAt win src r) (rowAt wout dst r) := by
  ext c
  rw [rowAt, launchIndexed, dif_pos (row_cell_lt hr c.isLt)]
  have hcell : (⟨(r*wout+c)%wout,Nat.mod_lt _ (Nat.zero_lt_of_lt c.isLt)⟩ : Fin wout) = c :=
    Fin.ext (row_cell_mod c.isLt)
  rw [hcell, row_cell_div c.isLt]

theorem launch_rows_get (f : (Fin win → α) → (Fin wout → α) → Fin wout → α)
    (src dst : Memory α) {r : ℕ} (hr : r < rows) :
    rowAt wout (launchRows rows f src dst) r = f (rowAt win src r) (rowAt wout dst r) :=
  launch_indexed_get _ src dst hr

def SameRows (w n : ℕ) (m : Memory α) (off : ℕ) (m' : Memory α) (off' : ℕ) : Prop :=
  ∀ t < n, rowAt w m (off+t) = rowAt w m' (off'+t)

theorem launch_rows_same {rows' : ℕ} (f : (Fin win → α) → (Fin wout → α) → Fin wout → α)
    {src dst src' dst' : Memory α} (hsrc : SameRows win n src off src' off')
    (hdst : SameRows wout n dst off dst' off') (hr : off+n ≤ rows) (hr' : off'+n ≤ rows') :
    SameRows wout n (launchRows rows f src dst) off (launchRows rows' f src' dst') off' := by
  intro t ht
  rw [launch_rows_get f src dst (by omega), launch_rows_get f src' dst' (by omega), hsrc t ht,
    hdst t ht]

theorem launch_indexed_fresh {rows' : ℕ} (f f' : ℕ → (Fin win → α) → Fin wout → α)
    {src src' : Memory α} (dst dst' : Memory α) (hsrc : SameRows win n src off src' off')
    (hf : ∀ t < n, f (off+t) = f' (off'+t)) (hr : off+n ≤ rows) (hr' : off'+n ≤ rows') :
    SameRows wout n (launchIndexed rows (fun t row _ => f t row) src dst) off
      (launchIndexed rows' (fun t row _ => f' t row) src' dst') off' := by
  intro t ht
  rw [launch_indexed_get _ src dst (by omega), launch_indexed_get _ src' dst' (by omega),
    hsrc t ht, hf t ht]

theorem launch_rows_fresh {rows' : ℕ} (f : (Fin win → α) → Fin wout → α)
    {src src' : Memory α} (dst dst' : Memory α) (hsrc : SameRows win n src off src' off')
    (hr : off+n ≤ rows) (hr' : off'+n ≤ rows') :
    SameRows wout n (launchRows rows (fun row _ => f row) src dst) off
      (launchRows rows' (fun row _ => f row) src' dst') off' :=
  launch_indexed_fresh _ _ dst dst' hsrc (fun _ _ => rfl) hr hr'

def advance (m : Memory α) (k : ℕ) : Memory α := fun a => m (k+a)

def writeBack (m : Memory α) (k : ℕ) (part : Memory α) : Memory α :=
  fun a => if k ≤ a then part (a-k) else m a

theorem advance_row (m : Memory α) (k r : ℕ) : rowAt w (advance m (k*w)) r = rowAt w m (k+r) := by
  ext c
  show m (k*w+(r*w+c)) = m ((k+r)*w+c)
  rw [Nat.add_mul, Nat.add_assoc]

theorem write_back_row (m part : Memory α) (k r : ℕ) :
    rowAt w (writeBack m (k*w) part) (k+r) = rowAt w part r := by
  ext c
  have hle : k*w ≤ (k+r)*w+c := by
    rw [Nat.add_mul]
    omega
  have hsub : (k+r)*w+c-k*w = r*w+c := by
    rw [Nat.add_mul]
    omega
  rw [rowAt, writeBack, if_pos hle, hsub]
  rfl

theorem write_back_before (m part : Memory α) {k r : ℕ} (hr : r < k) :
    rowAt w (writeBack m (k*w) part) r = rowAt w m r := by
  ext c
  rw [rowAt, writeBack, if_neg (Nat.not_le.mpr (row_cell_lt hr c.isLt))]
  rfl

def ofRows (rest : α) (row : Fin n → Fin w → α) : Memory α := fun a =>
  if h : a < n*w then
    row ⟨a/w,Nat.div_lt_of_lt_mul (Nat.mul_comm n w ▸ h)⟩
      ⟨a%w,Nat.mod_lt a (Nat.pos_of_lt_mul_left h)⟩
  else rest

theorem of_rows_get (rest : α) (row : Fin n → Fin w → α) (t : Fin n) :
    rowAt w (ofRows rest row) t = row t := by
  ext c
  rw [rowAt, ofRows, dif_pos (row_cell_lt t.isLt c.isLt)]
  congr 2
  · exact row_cell_div c.isLt
  · exact row_cell_mod c.isLt

section Flattened

variable {ι β : Type*} (len : ι → ℕ)

def startOf (xs : List ι) (i : ℕ) : ℕ := ((xs.take i).map len).sum

def total (xs : List ι) : ℕ := (xs.map len).sum

@[simp] theorem start_of_zero (xs : List ι) : startOf len xs 0 = 0 := rfl

theorem start_of_succ (x : ι) (xs : List ι) (i : ℕ) :
    startOf len (x::xs) (i+1) = len x+startOf len xs i := by
  rw [startOf, List.take_succ_cons, List.map_cons, List.sum_cons]
  rfl

theorem start_add_le (xs : List ι) {i : ℕ} {x : ι} (hi : xs[i]? = some x) :
    startOf len xs i+len x ≤ total len xs := by
  induction xs generalizing i with
  | nil => simp at hi
  | cons first xs ih =>
    rw [total, List.map_cons, List.sum_cons]
    cases i with
    | zero =>
      obtain rfl := Option.some.inj hi
      rw [start_of_zero]
      omega
    | succ i =>
      have hrest := ih hi
      rw [total] at hrest
      rw [start_of_succ]
      omega

theorem flat_map_get (f : ι → List β) (xs : List ι) (hlen : ∀ x ∈ xs, (f x).length = len x)
    {i t : ℕ} {x : ι} (hi : xs[i]? = some x) (ht : t < len x) :
    (xs.flatMap f)[startOf len xs i+t]? = (f x)[t]? := by
  induction xs generalizing i with
  | nil => simp at hi
  | cons first xs ih =>
    have hfirst := hlen first List.mem_cons_self
    rw [List.flatMap_cons]
    cases i with
    | zero =>
      obtain rfl := Option.some.inj hi
      rw [start_of_zero, Nat.zero_add, List.getElem?_append_left (hfirst ▸ ht)]
    | succ i =>
      rw [start_of_succ, Nat.add_assoc, ← hfirst,
        List.getElem?_append_right (Nat.le_add_right _ _), Nat.add_sub_cancel_left]
      exact ih (fun y hy => hlen y (List.mem_cons_of_mem first hy)) hi

end Flattened

end MiniLlm.RowBuffers
