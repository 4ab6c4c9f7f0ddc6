import MiniLlm.KernelLaunch

/-!
# Tiles that fill a matrix

A grid of tiles goes over a matrix whose size the tiles need not divide. The
cells of a tile are shared out among its threads in any order; cells outside
of the matrix are skipped. Then each cell of the matrix is stored to once.
-/

set_option autoImplicit false

namespace MiniLlm.KernelLaunch

open FlatMemory RowBuffers

variable {R : Type*}

structure TileCells (rows cols : ℕ) (cells : List (ℕ × ℕ)) : Prop where
  distinct : cells.Nodup
  inside : ∀ x ∈ cells, x.1 < rows ∧ x.2 < cols
  all : ∀ r < rows, ∀ c < cols, (r,c) ∈ cells

theorem line_cells_tile (threads width : ℕ) : TileCells 1 (threads*width)
    ((List.range threads).flatMap fun t => (List.range width).map fun j => (0,t*width+j)) := by
  refine ⟨?_,?_,?_⟩
  · refine nodup_flat_map (fun x => x.2/width) List.nodup_range (fun t _ => ?_)
      fun t _ x hx => ?_
    · refine List.nodup_range.map fun j j' h => ?_
      simpa using h
    · obtain ⟨j,hj,rfl⟩ := List.mem_map.mp hx
      exact row_cell_div (List.mem_range.mp hj)
  · intro x hx
    obtain ⟨t,ht,hx⟩ := List.mem_flatMap.mp hx
    obtain ⟨j,hj,rfl⟩ := List.mem_map.mp hx
    exact ⟨Nat.one_pos,row_cell_lt (List.mem_range.mp ht) (List.mem_range.mp hj)⟩
  · intro r hr c hc
    obtain rfl := Nat.lt_one_iff.mp hr
    have hwidth : 0 < width := Nat.pos_of_lt_mul_left hc
    have ht : c/width < threads := Nat.div_lt_of_lt_mul (Nat.mul_comm threads width ▸ hc)
    refine List.mem_flatMap.mpr ⟨c/width,List.mem_range.mpr ht,?_⟩
    refine List.mem_map.mpr ⟨c%width,List.mem_range.mpr (Nat.mod_lt c hwidth),?_⟩
    rw [Nat.div_add_mod']

/-- The stores are those of `value` to a row-major matrix, one to each cell. -/
structure Fills (rows cols : ℕ) (value : ℕ → ℕ → R) (stores : List (ℕ × R)) : Prop where
  distinct : (addresses stores).Nodup
  inside : ∀ w ∈ stores, ∃ r < rows, ∃ c < cols, w = (r*cols+c,value r c)
  all : ∀ r < rows, ∀ c < cols, (r*cols+c,value r c) ∈ stores

section Filled

variable {rows cols : ℕ} {value : ℕ → ℕ → R} {stores : List (ℕ × R)}

theorem Fills.stored (h : Fills rows cols value stores) (m : Memory R) {r c : ℕ} (hr : r < rows)
    (hc : c < cols) : storeAll stores m (r*cols+c) = value r c :=
  store_all_stored stores m _ _ h.distinct (h.all r hr c hc)

/-- Each address of the matrix is stored to once, and no other. -/
theorem Fills.addresses_perm (h : Fills rows cols value stores) :
    (addresses stores).Perm (List.range (rows*cols)) := by
  rw [List.perm_ext_iff_of_nodup h.distinct List.nodup_range]
  intro a
  rw [List.mem_range]
  constructor
  · intro ha
    obtain ⟨w,hw,rfl⟩ := List.mem_map.mp ha
    obtain ⟨r,hr,c,hc,rfl⟩ := h.inside w hw
    exact row_cell_lt hr hc
  · intro ha
    have hcols : 0 < cols := Nat.pos_of_lt_mul_left ha
    have hrow : a/cols < rows := Nat.div_lt_of_lt_mul (Nat.mul_comm rows cols ▸ ha)
    have hmem := h.all (a/cols) hrow (a%cols) (Nat.mod_lt a hcols)
    refine List.mem_map.mpr ⟨_,hmem,?_⟩
    exact Nat.div_add_mod' a cols

end Filled

section Grid

variable (rows cols bm bn : ℕ) (value : ℕ → ℕ → R) (cells : List (ℕ × ℕ))

def cellStore (y x : ℕ) (cell : ℕ × ℕ) : List (ℕ × R) :=
  if y*bm+cell.1 < rows ∧ x*bn+cell.2 < cols then
    [((y*bm+cell.1)*cols+(x*bn+cell.2),value (y*bm+cell.1) (x*bn+cell.2))] else []

def tileStores (y x : ℕ) : List (ℕ × R) := cells.flatMap (cellStore rows cols bm bn value y x)

def gridStores (gridY gridX : ℕ) : List (ℕ × R) :=
  (List.range gridY).flatMap fun y =>
    (List.range gridX).flatMap fun x => tileStores rows cols bm bn value cells y x

variable {rows cols bm bn value cells}

theorem mem_cell_store {y x : ℕ} {cell : ℕ × ℕ} {w : ℕ × R}
    (h : w ∈ cellStore rows cols bm bn value y x cell) :
    y*bm+cell.1 < rows ∧ x*bn+cell.2 < cols ∧
      w = ((y*bm+cell.1)*cols+(x*bn+cell.2),value (y*bm+cell.1) (x*bn+cell.2)) := by
  unfold cellStore at h
  split at h
  · rename_i hin
    exact ⟨hin.1,hin.2,List.mem_singleton.mp h⟩
  · exact absurd h List.not_mem_nil

theorem cell_store_key {y x : ℕ} {cell : ℕ × ℕ} {a : ℕ} (hcell : cell.1 < bm ∧ cell.2 < bn)
    (h : a ∈ addresses (cellStore rows cols bm bn value y x cell)) :
    a/cols/bm = y ∧ a%cols/bn = x ∧ (a/cols%bm,a%cols%bn) = cell := by
  obtain ⟨w,hw,rfl⟩ := List.mem_map.mp h
  obtain ⟨_,hcol,rfl⟩ := mem_cell_store hw
  dsimp only
  rw [row_cell_div hcol, row_cell_mod hcol, row_cell_div hcell.1, row_cell_div hcell.2,
    row_cell_mod hcell.1, row_cell_mod hcell.2]
  exact ⟨rfl,rfl,rfl⟩

theorem cell_store_nodup (y x : ℕ) (cell : ℕ × ℕ) :
    (addresses (cellStore rows cols bm bn value y x cell)).Nodup := by
  unfold cellStore addresses
  split <;> simp

theorem addresses_flat_map {ι : Type*} (xs : List ι) (f : ι → List (ℕ × R)) :
    addresses (xs.flatMap f) = xs.flatMap fun x => addresses (f x) := List.map_flatMap

theorem grid_fills (h : TileCells bm bn cells) {gridY gridX : ℕ} (hrows : rows ≤ gridY*bm)
    (hcols : cols ≤ gridX*bn) :
    Fills rows cols value (gridStores rows cols bm bn value cells gridY gridX) := by
  refine ⟨?_,?_,?_⟩
  · have hkey {y x a : ℕ} (ha : a ∈ addresses (tileStores rows cols bm bn value cells y x)) :
        a/cols/bm = y ∧ a%cols/bn = x := by
      rw [tileStores, addresses_flat_map] at ha
      obtain ⟨cell,hcell,ha⟩ := List.mem_flatMap.mp ha
      obtain ⟨hy,hx,_⟩ := cell_store_key (h.inside cell hcell) ha
      exact ⟨hy,hx⟩
    rw [gridStores, addresses_flat_map]
    refine nodup_flat_map (fun a => a/cols/bm) List.nodup_range (fun y _ => ?_) fun y _ a ha => ?_
    · rw [addresses_flat_map]
      refine nodup_flat_map (fun a => a%cols/bn) List.nodup_range (fun x _ => ?_)
        fun x _ a ha => (hkey ha).2
      rw [tileStores, addresses_flat_map]
      exact nodup_flat_map (fun a => (a/cols%bm,a%cols%bn)) h.distinct
        (fun cell _ => cell_store_nodup y x cell)
        fun cell hcell a ha => (cell_store_key (h.inside cell hcell) ha).2.2
    · rw [addresses_flat_map] at ha
      obtain ⟨x,_,ha⟩ := List.mem_flatMap.mp ha
      exact (hkey ha).1
  · intro w hw
    obtain ⟨y,_,hw⟩ := List.mem_flatMap.mp hw
    obtain ⟨x,_,hw⟩ := List.mem_flatMap.mp hw
    obtain ⟨cell,_,hw⟩ := List.mem_flatMap.mp hw
    obtain ⟨hrow,hcol,rfl⟩ := mem_cell_store hw
    exact ⟨_,hrow,_,hcol,rfl⟩
  · intro r hr c hc
    have hbm : 0 < bm := Nat.pos_of_lt_mul_left (hr.trans_le hrows)
    have hbn : 0 < bn := Nat.pos_of_lt_mul_left (hc.trans_le hcols)
    have hy : r/bm < gridY := Nat.div_lt_of_lt_mul (Nat.mul_comm gridY bm ▸ hr.trans_le hrows)
    have hx : c/bn < gridX := Nat.div_lt_of_lt_mul (Nat.mul_comm gridX bn ▸ hc.trans_le hcols)
    have hcell := h.all (r%bm) (Nat.mod_lt r hbm) (c%bn) (Nat.mod_lt c hbn)
    refine List.mem_flatMap.mpr ⟨r/bm,List.mem_range.mpr hy,?_⟩
    refine List.mem_flatMap.mpr ⟨c/bn,List.mem_range.mpr hx,?_⟩
    refine List.mem_flatMap.mpr ⟨_,hcell,?_⟩
    unfold cellStore
    dsimp only
    rw [Nat.div_add_mod', Nat.div_add_mod', if_pos ⟨hr,hc⟩]
    exact List.mem_singleton_self _

end Grid

end MiniLlm.KernelLaunch
