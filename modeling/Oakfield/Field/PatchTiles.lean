import Oakfield.Field.Patch
import Oakfield.Library.Strided
import Mathlib.Logic.Function.Basic

/-! Splitting a patch into tiles (`sim_field_patch_split_tiles`): two loops in
`size_t`, either of which may step past its bound and wrap. -/
namespace Oakfield

open Library.Strided

/-- What the loops hold. The list of emitted tiles is for statements only. -/
structure SplitTiles where
  count : ℕ
  outTiles : ℕ → SimFieldPatch
  emitted : List (Except SimError SimFieldPatch)

/-- The tile at an offset in the patch, additions in `size_t`. -/
def simFieldPatchTile (patch : SimFieldPatch) (x y localWidth localHeight : ℕ) :
    Except SimError SimFieldPatch :=
  simFieldPatchFromXywh patch.fieldWidth patch.fieldHeight ((patch.x0 + x) % 2 ^ 64)
    ((patch.y0 + y) % 2 ^ 64) localWidth localHeight

/-- The innermost body; a failed construction leaves its slot unchanged. -/
def simFieldPatchEmitTile (outCapacity : ℕ) (tile : Except SimError SimFieldPatch)
    (s : SplitTiles) : SplitTiles where
  count := (s.count + 1) % 2 ^ 64
  outTiles :=
    match tile with
    | .ok tile =>
        if s.count < outCapacity then Function.update s.outTiles s.count tile else s.outTiles
    | .error _ => s.outTiles
  emitted := s.emitted ++ [tile]

/-- The tile size which is used. -/
def simFieldPatchTileSize (extent size : ℕ) : ℕ :=
  if size = 0 ∨ extent < size then extent else size

/-- `sim_field_patch_split_tiles`; a missing array is one of capacity 0. -/
def simFieldPatchSplitTiles (fuel : ℕ) (patch : SimFieldPatch) (tileWidth tileHeight : ℕ)
    (outTiles : ℕ → SimFieldPatch) (outCapacity : ℕ) : Option SplitTiles :=
  if !patch.isValid then some ⟨0, outTiles, []⟩
  else
    let tileWidth := simFieldPatchTileSize patch.width tileWidth
    let tileHeight := simFieldPatchTileSize patch.height tileHeight
    loop (2 ^ 64) patch.height tileHeight (fun y s =>
      let localHeight := pieceLength patch.height tileHeight y
      loop (2 ^ 64) patch.width tileWidth (fun x s =>
        let localWidth := pieceLength patch.width tileWidth x
        some (simFieldPatchEmitTile outCapacity
          (simFieldPatchTile patch x y localWidth localHeight) s)) fuel 0 s) fuel 0
      ⟨0, outTiles, []⟩

/-! ### The emitted tiles -/

/-- Emitting some tiles in turn. -/
def emitTiles (outCapacity : ℕ) (tiles : List (Except SimError SimFieldPatch)) (s : SplitTiles) :
    SplitTiles :=
  tiles.foldl (fun s tile => simFieldPatchEmitTile outCapacity tile s) s

section Emit

variable {outCapacity : ℕ} {tiles : List (Except SimError SimFieldPatch)} {s : SplitTiles}

theorem emitTiles_append (more : List (Except SimError SimFieldPatch)) :
    emitTiles outCapacity (tiles ++ more) s =
      emitTiles outCapacity more (emitTiles outCapacity tiles s) :=
  List.foldl_append

theorem emitTiles_emitted : (emitTiles outCapacity tiles s).emitted = s.emitted ++ tiles := by
  induction tiles generalizing s with
  | nil => exact (List.append_nil _).symm
  | cons tile tiles ih =>
      have hRest := ih (s := simFieldPatchEmitTile outCapacity tile s)
      simp only [simFieldPatchEmitTile, List.append_assoc, List.singleton_append] at hRest
      exact hRest

theorem emitTiles_count (hCount : s.count < 2 ^ 64) :
    (emitTiles outCapacity tiles s).count = (s.count + tiles.length) % 2 ^ 64 := by
  induction tiles generalizing s with
  | nil => exact (Nat.mod_eq_of_lt hCount).symm
  | cons tile tiles ih =>
      have hRest := ih (s := simFieldPatchEmitTile outCapacity tile s)
        (Nat.mod_lt _ (by norm_num))
      have hNext : (simFieldPatchEmitTile outCapacity tile s).count = (s.count + 1) % 2 ^ 64 := rfl
      rw [hNext, Nat.mod_add_mod, Nat.add_assoc, Nat.add_comm 1] at hRest
      exact hRest

/-- A tile only changes its own slot. -/
theorem simFieldPatchEmitTile_outTiles (tile : Except SimError SimFieldPatch) {slot : ℕ}
    (hSlot : slot ≠ s.count) :
    (simFieldPatchEmitTile outCapacity tile s).outTiles slot = s.outTiles slot := by
  cases tile with
  | error e => rfl
  | ok tile =>
      simp only [simFieldPatchEmitTile]
      split_ifs
      · exact Function.update_of_ne hSlot _ _
      · rfl

theorem simFieldPatchEmitTile_own (tile : SimFieldPatch) (hCapacity : s.count < outCapacity) :
    (simFieldPatchEmitTile outCapacity (.ok tile) s).outTiles s.count = tile := by
  simp only [simFieldPatchEmitTile, if_pos hCapacity, Function.update_self]

/-- Without a wrap of the count, earlier slots stay and every tile reaches its own. -/
theorem emitTiles_outTiles (hFits : s.count + tiles.length < 2 ^ 64) :
    (∀ slot < s.count, (emitTiles outCapacity tiles s).outTiles slot = s.outTiles slot) ∧
      ∀ i tile, tiles[i]? = some (.ok tile) → s.count + i < outCapacity →
        (emitTiles outCapacity tiles s).outTiles (s.count + i) = tile := by
  induction tiles generalizing s with
  | nil =>
      constructor
      · intro slot _
        rfl
      · intro i tile hTile
        cases hTile
  | cons first tiles ih =>
      rw [List.length_cons] at hFits
      have hNext : (simFieldPatchEmitTile outCapacity first s).count = s.count + 1 :=
        Nat.mod_eq_of_lt (by omega)
      obtain ⟨hStays, hReaches⟩ := ih (s := simFieldPatchEmitTile outCapacity first s)
        (by omega)
      rw [hNext] at hStays hReaches
      constructor
      · intro slot hSlot
        have hSame := hStays slot (by omega)
        rw [simFieldPatchEmitTile_outTiles first (by omega)] at hSame
        exact hSame
      · intro i tile hTile hCapacity
        cases i with
        | zero =>
            cases hTile
            have hSame := hStays s.count (by omega)
            rw [simFieldPatchEmitTile_own tile hCapacity] at hSame
            exact hSame
        | succ i =>
            have hSame := hReaches i tile hTile (by omega)
            rw [Nat.add_assoc, Nat.add_comm 1] at hSame
            exact hSame

end Emit

/-! ### The positions of the loops -/

section Runs

variable {patch : SimFieldPatch} {tileWidth tileHeight outCapacity : ℕ}

/-- The tiles of the rows and columns of two loops, row by row. -/
def tileGrid (patch : SimFieldPatch) (tileWidth tileHeight : ℕ) (rows columns : List ℕ) :
    List (Except SimError SimFieldPatch) :=
  rows.flatMap fun y => columns.map fun x =>
    simFieldPatchTile patch x y (pieceLength patch.width tileWidth x)
      (pieceLength patch.height tileHeight y)

/-- The inner loop, for the row of tiles at `y`. -/
def simFieldPatchTileRow (fuel : ℕ) (patch : SimFieldPatch) (tileWidth tileHeight outCapacity : ℕ)
    (y : ℕ) (s : SplitTiles) : Option SplitTiles :=
  loop (2 ^ 64) patch.width tileWidth (fun x s =>
    some (simFieldPatchEmitTile outCapacity
      (simFieldPatchTile patch x y (pieceLength patch.width tileWidth x)
        (pieceLength patch.height tileHeight y)) s)) fuel 0 s

/-- Some bodies without failure fold as plain functions. -/
theorem foldlM_emit (columns : List ℕ) (tile : ℕ → Except SimError SimFieldPatch) (s : SplitTiles) :
    columns.foldlM (fun s x => some (simFieldPatchEmitTile outCapacity (tile x) s)) s =
      some (emitTiles outCapacity (columns.map tile) s) := by
  induction columns generalizing s with
  | nil => rfl
  | cons x columns ih =>
      rw [List.foldlM_cons]
      exact ih _

theorem tileRow_some {fuel y : ℕ} {s s' : SplitTiles}
    (hRow : simFieldPatchTileRow fuel patch tileWidth tileHeight outCapacity y s = some s') :
    ∃ columns, Ends (2 ^ 64) patch.width tileWidth columns ∧
      s' = emitTiles outCapacity
        (tileGrid patch tileWidth tileHeight [y] (positions (2 ^ 64) tileWidth columns)) s := by
  obtain ⟨columns, hEnds, hFold⟩ := loop_start_some hRow
  rw [foldlM_emit] at hFold
  cases hFold
  refine ⟨columns, hEnds, ?_⟩
  rw [tileGrid, List.flatMap_singleton]

theorem tileRow_of_ends {fuel columns : ℕ} (y : ℕ) (s : SplitTiles)
    (hEnds : Ends (2 ^ 64) patch.width tileWidth columns) (hFuel : columns < fuel) :
    simFieldPatchTileRow fuel patch tileWidth tileHeight outCapacity y s =
      some (emitTiles outCapacity
        (tileGrid patch tileWidth tileHeight [y] (positions (2 ^ 64) tileWidth columns)) s) := by
  apply loop_start_of_ends hEnds _ hFuel
  rw [foldlM_emit, tileGrid, List.flatMap_singleton]

/-- Rows which all ended emitted the grid of their positions. -/
theorem foldlM_tileRow {fuel columns : ℕ} {rows : List ℕ} {s s' : SplitTiles}
    (hEnds : Ends (2 ^ 64) patch.width tileWidth columns)
    (hRows : rows.foldlM (fun s y =>
      simFieldPatchTileRow fuel patch tileWidth tileHeight outCapacity y s) s = some s') :
    s' = emitTiles outCapacity
      (tileGrid patch tileWidth tileHeight rows (positions (2 ^ 64) tileWidth columns)) s := by
  induction rows generalizing s with
  | nil =>
      cases hRows
      rfl
  | cons y rows ih =>
      rw [List.foldlM_cons] at hRows
      cases hRow : simFieldPatchTileRow fuel patch tileWidth tileHeight outCapacity y s with
      | none =>
          rw [hRow] at hRows
          cases hRows
      | some next =>
          rw [hRow] at hRows
          obtain ⟨others, hOthers, hNext⟩ := tileRow_some hRow
          rw [hOthers.unique hEnds] at hNext
          have hRest := ih hRows
          rw [hNext, ← emitTiles_append] at hRest
          rw [hRest]
          simp only [tileGrid, List.flatMap_cons, List.flatMap_nil, List.append_nil]

theorem foldlM_tileRow_of_ends {fuel columns : ℕ} {rows : List ℕ} {s : SplitTiles}
    (hEnds : Ends (2 ^ 64) patch.width tileWidth columns) (hFuel : columns < fuel) :
    rows.foldlM (fun s y =>
      simFieldPatchTileRow fuel patch tileWidth tileHeight outCapacity y s) s =
        some (emitTiles outCapacity
          (tileGrid patch tileWidth tileHeight rows (positions (2 ^ 64) tileWidth columns)) s) := by
  induction rows generalizing s with
  | nil => rfl
  | cons y rows ih =>
      have hRow : ((y :: rows).foldlM (fun s y =>
          simFieldPatchTileRow fuel patch tileWidth tileHeight outCapacity y s) s) =
            rows.foldlM (fun s y =>
              simFieldPatchTileRow fuel patch tileWidth tileHeight outCapacity y s)
              (emitTiles outCapacity (tileGrid patch tileWidth tileHeight [y]
                (positions (2 ^ 64) tileWidth columns)) s) := by
        rw [List.foldlM_cons, tileRow_of_ends y s hEnds hFuel]
        rfl
      rw [hRow, ih, ← emitTiles_append]
      simp only [tileGrid, List.flatMap_cons, List.flatMap_nil, List.append_nil]

theorem simFieldPatchSplitTiles_eq (hValid : patch.isValid = true) (fuel : ℕ)
    (outTiles : ℕ → SimFieldPatch) :
    simFieldPatchSplitTiles fuel patch tileWidth tileHeight outTiles outCapacity =
      loop (2 ^ 64) patch.height (simFieldPatchTileSize patch.height tileHeight)
        (simFieldPatchTileRow fuel patch (simFieldPatchTileSize patch.width tileWidth)
          (simFieldPatchTileSize patch.height tileHeight) outCapacity) fuel 0
          ⟨0, outTiles, []⟩ := by
  rw [simFieldPatchSplitTiles, hValid]
  rfl

theorem tileGrid_length {rows columns : List ℕ} :
    (tileGrid patch tileWidth tileHeight rows columns).length = rows.length * columns.length := by
  induction rows with
  | nil => simp [tileGrid]
  | cons y rows ih =>
      rw [tileGrid, List.flatMap_cons, List.length_append, List.length_map, List.length_cons,
        Nat.succ_mul, Nat.add_comm]
      congr 1

theorem simFieldPatchTileSize_eq {extent size : ℕ} (hSize : 0 < size) :
    simFieldPatchTileSize extent size = min size extent := by
  rw [simFieldPatchTileSize]
  split_ifs <;> omega

end Runs

/-! ### The grid of tiles -/

/-- The tile of a row and a column of the grid. -/
def gridTile (patch : SimFieldPatch) (tileWidth tileHeight row column : ℕ) : SimFieldPatch :=
  let x0 := patch.x0 + column * tileWidth
  let y0 := patch.y0 + row * tileHeight
  let width := pieceLength patch.width tileWidth (column * tileWidth)
  let height := pieceLength patch.height tileHeight (row * tileHeight)
  ⟨x0, y0, width, height, patch.fieldWidth, patch.fieldHeight,
    simFieldPatchComputeFlags patch.fieldWidth patch.fieldHeight x0 y0 width height⟩

/-- All tiles of the grid, row by row. -/
def gridTiles (patch : SimFieldPatch) (tileWidth tileHeight : ℕ) : List SimFieldPatch :=
  (List.range (ceilDiv patch.height tileHeight)).flatMap fun row =>
    (List.range (ceilDiv patch.width tileWidth)).map fun column =>
      gridTile patch tileWidth tileHeight row column

/-- Valid tiles of the patch's grid, no two of which share a cell, make up the patch. -/
structure TilesPatch (patch : SimFieldPatch) (tiles : List SimFieldPatch) : Prop where
  valid : ∀ tile ∈ tiles, tile.isValid = true ∧ tile.SameGrid patch
  disjoint : tiles.Pairwise fun tile other => tile.cells ∩ other.cells = ∅
  cover : ∀ cell, cell ∈ patch.cells ↔ ∃ tile ∈ tiles, cell ∈ tile.cells

section Grid

variable {patch : SimFieldPatch} {tileWidth tileHeight : ℕ}

theorem mem_gridTiles {tile : SimFieldPatch} :
    tile ∈ gridTiles patch tileWidth tileHeight ↔
      ∃ row < ceilDiv patch.height tileHeight, ∃ column < ceilDiv patch.width tileWidth,
        gridTile patch tileWidth tileHeight row column = tile := by
  simp only [gridTiles, List.mem_flatMap, List.mem_map, List.mem_range]

/-- Where a tile of the grid lies, along both axes. -/
theorem gridTile_bounds (hValid : patch.isValid = true) (hWidth : 0 < tileWidth)
    (hHeight : 0 < tileHeight) {row column : ℕ} (hRow : row < ceilDiv patch.height tileHeight)
    (hColumn : column < ceilDiv patch.width tileWidth) :
    (0 < pieceLength patch.width tileWidth (column * tileWidth) ∧
      column * tileWidth + pieceLength patch.width tileWidth (column * tileWidth) ≤ patch.width) ∧
    0 < pieceLength patch.height tileHeight (row * tileHeight) ∧
      row * tileHeight + pieceLength patch.height tileHeight (row * tileHeight) ≤ patch.height := by
  rw [SimFieldPatch.isValid_iff] at hValid
  have hX := pieceLength_spec hWidth hValid.1.1 hColumn
  have hY := pieceLength_spec hHeight hValid.2.1 hRow
  exact ⟨⟨hX.1, hX.2.1⟩, hY.1, hY.2.1⟩

theorem gridTile_cells {row column : ℕ} {cell : ℕ × ℕ} :
    cell ∈ (gridTile patch tileWidth tileHeight row column).cells ↔
      (patch.x0 + column * tileWidth ≤ cell.1 ∧ cell.1 < patch.x0 + column * tileWidth +
        pieceLength patch.width tileWidth (column * tileWidth)) ∧
      patch.y0 + row * tileHeight ≤ cell.2 ∧ cell.2 < patch.y0 + row * tileHeight +
        pieceLength patch.height tileHeight (row * tileHeight) :=
  Iff.rfl

theorem gridTiles_tile (hValid : patch.isValid = true) (hWidth : 0 < tileWidth)
    (hHeight : 0 < tileHeight) : TilesPatch patch (gridTiles patch tileWidth tileHeight) := by
  have hPatch := SimFieldPatch.isValid_iff.mp hValid
  constructor
  · intro tile hTile
    obtain ⟨row, hRow, column, hColumn, rfl⟩ := mem_gridTiles.mp hTile
    have hBounds := gridTile_bounds hValid hWidth hHeight hRow hColumn
    refine ⟨?_, rfl, rfl⟩
    rw [SimFieldPatch.isValid_iff]
    simp only [gridTile]
    omega
  · -- tiles of a row lie apart along it, tiles of two rows across them
    rw [gridTiles, List.pairwise_flatMap]
    constructor
    · intro row hRow
      rw [List.pairwise_map]
      apply List.pairwise_lt_range.imp_of_mem
      intro column other _ hOther hLess
      have hApart := pieceLength_apart hWidth hPatch.1.1 hLess (List.mem_range.mp hOther)
      rw [Set.eq_empty_iff_forall_notMem]
      intro cell hCell
      have hLeft := gridTile_cells.mp hCell.1
      have hRight := gridTile_cells.mp hCell.2
      omega
    · apply List.pairwise_lt_range.imp_of_mem
      intro row other _ hOther hLess tile hTile otherTile hOtherTile
      obtain ⟨column, _, rfl⟩ := List.mem_map.mp hTile
      obtain ⟨otherColumn, _, rfl⟩ := List.mem_map.mp hOtherTile
      have hApart := pieceLength_apart hHeight hPatch.2.1 hLess (List.mem_range.mp hOther)
      rw [Set.eq_empty_iff_forall_notMem]
      intro cell hCell
      have hLeft := gridTile_cells.mp hCell.1
      have hRight := gridTile_cells.mp hCell.2
      omega
  · intro cell
    constructor
    · intro hCell
      obtain ⟨⟨hLeft, hRight⟩, hTop, hBottom⟩ := hCell
      obtain ⟨column, hColumn, hFrom, hTo⟩ := pieceLength_cover hWidth
        (by omega : cell.1 - patch.x0 < patch.width)
      obtain ⟨row, hRow, hAbove, hBelow⟩ := pieceLength_cover hHeight
        (by omega : cell.2 - patch.y0 < patch.height)
      refine ⟨_, mem_gridTiles.mpr ⟨row, hRow, column, hColumn, rfl⟩, ?_⟩
      rw [gridTile_cells]
      omega
    · intro hTile
      obtain ⟨tile, hTile, hCell⟩ := hTile
      obtain ⟨row, hRow, column, hColumn, rfl⟩ := mem_gridTiles.mp hTile
      have hBounds := gridTile_bounds hValid hWidth hHeight hRow hColumn
      rw [gridTile_cells] at hCell
      show (_ ∧ _) ∧ _ ∧ _
      omega

/-- Without a wrap the loops emit the tiles of the grid. -/
theorem tileGrid_eq (hValid : patch.isValid = true) (hSized : patch.Sized)
    (hWidth : 0 < tileWidth) (hHeight : 0 < tileHeight)
    (hColumns : ceilDiv patch.width tileWidth * tileWidth < 2 ^ 64)
    (hRows : ceilDiv patch.height tileHeight * tileHeight < 2 ^ 64) :
    tileGrid patch tileWidth tileHeight
        (positions (2 ^ 64) tileHeight (ceilDiv patch.height tileHeight))
        (positions (2 ^ 64) tileWidth (ceilDiv patch.width tileWidth)) =
      (gridTiles patch tileWidth tileHeight).map .ok := by
  have hPatch := SimFieldPatch.isValid_iff.mp hValid
  have hFieldWidth := hSized.1
  have hFieldHeight := hSized.2
  rw [positions_eq hColumns, positions_eq hRows, tileGrid, gridTiles, List.flatMap_map,
    List.map_flatMap]
  apply List.flatMap_congr
  intro row hRow
  rw [List.map_map, List.map_map]
  apply List.map_congr_left
  intro column hColumn
  have hBounds := gridTile_bounds hValid hWidth hHeight (List.mem_range.mp hRow)
    (List.mem_range.mp hColumn)
  simp only [Function.comp_apply, simFieldPatchTile]
  rw [Nat.mod_eq_of_lt (by omega), Nat.mod_eq_of_lt (by omega),
    simFieldPatchFromXywh_eq (by omega) (by omega) (by omega) (by omega)]
  rfl

theorem gridTiles_length : (gridTiles patch tileWidth tileHeight).length =
    ceilDiv patch.width tileWidth * ceilDiv patch.height tileHeight := by
  simp [gridTiles, List.length_flatMap, Nat.mul_comm]

end Grid

/-! ### When a patch is split into its tiles -/

/-- The call ends, its count is the number of emitted tiles and of tiles there
should be, these make up the patch, and the array has those it has room for. -/
def SplitsIntoTiles (patch : SimFieldPatch) (tileWidth tileHeight : ℕ)
    (outTiles : ℕ → SimFieldPatch) (outCapacity : ℕ) : Prop :=
  ∃ fuel s tiles,
    simFieldPatchSplitTiles fuel patch tileWidth tileHeight outTiles outCapacity = some s ∧
    s.emitted = tiles.map .ok ∧
    tiles.length = ceilDiv patch.width tileWidth * ceilDiv patch.height tileHeight ∧
    s.count = tiles.length ∧ TilesPatch patch tiles ∧
    ∀ slot tile, tiles[slot]? = some tile → slot < outCapacity → s.outTiles slot = tile

/-- The last step of either loop and the number of tiles fit in a `size_t`. -/
def TilingFits (patch : SimFieldPatch) (tileWidth tileHeight : ℕ) : Prop :=
  ceilDiv patch.width tileWidth * min tileWidth patch.width < 2 ^ 64 ∧
    ceilDiv patch.height tileHeight * min tileHeight patch.height < 2 ^ 64 ∧
    ceilDiv patch.width tileWidth * ceilDiv patch.height tileHeight < 2 ^ 64

instance (patch : SimFieldPatch) (tileWidth tileHeight : ℕ) :
    Decidable (TilingFits patch tileWidth tileHeight) :=
  inferInstanceAs (Decidable (_ ∧ _ ∧ _))

section Split

variable {patch : SimFieldPatch} {tileWidth tileHeight outCapacity : ℕ}
  {outTiles : ℕ → SimFieldPatch}

/-- A call which ended emitted the tiles of the positions of both loops. -/
theorem simFieldPatchSplitTiles_some (hValid : patch.isValid = true) {fuel : ℕ} {s : SplitTiles}
    (hSplit : simFieldPatchSplitTiles fuel patch tileWidth tileHeight outTiles outCapacity =
      some s) :
    ∃ rows columns,
      Ends (2 ^ 64) patch.height (simFieldPatchTileSize patch.height tileHeight) rows ∧
      Ends (2 ^ 64) patch.width (simFieldPatchTileSize patch.width tileWidth) columns ∧
      s.emitted.length = rows * columns ∧ s.count = rows * columns % 2 ^ 64 := by
  have hPatch := SimFieldPatch.isValid_iff.mp hValid
  rw [simFieldPatchSplitTiles_eq hValid] at hSplit
  obtain ⟨rows, hRows, hFold⟩ := loop_start_some hSplit
  -- the first row ended, so that all of them do after as many columns
  cases rows with
  | zero =>
      have hEnd := hRows.2
      rw [Nat.zero_mul, Nat.zero_mod] at hEnd
      omega
  | succ rows =>
      have hFirst : ∃ next, simFieldPatchTileRow fuel patch
          (simFieldPatchTileSize patch.width tileWidth)
          (simFieldPatchTileSize patch.height tileHeight) outCapacity
          (0 * simFieldPatchTileSize patch.height tileHeight % 2 ^ 64) ⟨0, outTiles, []⟩ =
            some next := by
        rw [← positionsFrom_zero, positionsFrom_succ, List.foldlM_cons] at hFold
        exact (Option.bind_eq_some_iff.mp hFold).imp fun _ hNext => hNext.1
      obtain ⟨next, hNext⟩ := hFirst
      obtain ⟨columns, hColumns, _⟩ := tileRow_some hNext
      have hEmitted := foldlM_tileRow hColumns hFold
      have hLength : (tileGrid patch (simFieldPatchTileSize patch.width tileWidth)
          (simFieldPatchTileSize patch.height tileHeight)
          (positions (2 ^ 64) (simFieldPatchTileSize patch.height tileHeight) (rows + 1))
          (positions (2 ^ 64) (simFieldPatchTileSize patch.width tileWidth) columns)).length =
            (rows + 1) * columns := by
        rw [tileGrid_length, positions, positions, List.length_map, List.length_map,
          List.length_range, List.length_range]
      refine ⟨rows + 1, columns, hRows, hColumns, ?_, ?_⟩
      · rw [hEmitted, emitTiles_emitted, List.nil_append, hLength]
      · rw [hEmitted, emitTiles_count (by norm_num), hLength, Nat.zero_add]

theorem splitsIntoTiles_of_fits (hValid : patch.isValid = true) (hSized : patch.Sized)
    (hWidth : 0 < tileWidth) (hHeight : 0 < tileHeight)
    (hFits : TilingFits patch tileWidth tileHeight) :
    SplitsIntoTiles patch tileWidth tileHeight outTiles outCapacity := by
  have hPatch := SimFieldPatch.isValid_iff.mp hValid
  obtain ⟨hColumnsFit, hRowsFit, hCountFits⟩ := hFits
  have hUsedWidth : 0 < min tileWidth patch.width := lt_min hWidth hPatch.1.1
  have hUsedHeight : 0 < min tileHeight patch.height := lt_min hHeight hPatch.2.1
  rw [← ceilDiv_min hPatch.1.1] at hColumnsFit hCountFits
  rw [← ceilDiv_min hPatch.2.1] at hRowsFit hCountFits
  have hColumns := (ends_ceilDiv_iff hUsedWidth (min_le_right _ _)
    (Nat.lt_of_le_of_lt (by omega) hSized.1)).mpr hColumnsFit
  have hRows := (ends_ceilDiv_iff hUsedHeight (min_le_right _ _)
    (Nat.lt_of_le_of_lt (by omega) hSized.2)).mpr hRowsFit
  set tiles := gridTiles patch (min tileWidth patch.width) (min tileHeight patch.height)
  have hGrid := tileGrid_eq hValid hSized hUsedWidth hUsedHeight hColumnsFit hRowsFit
  have hLength : tiles.length = ceilDiv patch.width (min tileWidth patch.width) *
      ceilDiv patch.height (min tileHeight patch.height) := gridTiles_length
  set columns := ceilDiv patch.width (min tileWidth patch.width)
  set rows := ceilDiv patch.height (min tileHeight patch.height)
  have hSplit : simFieldPatchSplitTiles (rows + columns + 1) patch tileWidth tileHeight outTiles
      outCapacity = some (emitTiles outCapacity (tiles.map .ok) ⟨0, outTiles, []⟩) := by
    rw [simFieldPatchSplitTiles_eq hValid, simFieldPatchTileSize_eq hWidth,
      simFieldPatchTileSize_eq hHeight]
    apply loop_start_of_ends hRows _ (by omega)
    rw [foldlM_tileRow_of_ends hColumns (by omega), hGrid]
  refine ⟨_, _, tiles, hSplit, ?_, ?_, ?_, ?_, ?_⟩
  · rw [emitTiles_emitted, List.nil_append]
  · rw [hLength, ← ceilDiv_min hPatch.1.1, ← ceilDiv_min hPatch.2.1]
  · rw [emitTiles_count (by norm_num), List.length_map, Nat.zero_add,
      Nat.mod_eq_of_lt (by omega)]
  · exact gridTiles_tile hValid hUsedWidth hUsedHeight
  · intro slot tile hTile hCapacity
    have hStart : (⟨0, outTiles, []⟩ : SplitTiles).count + (tiles.map
        (Except.ok : SimFieldPatch → Except SimError SimFieldPatch)).length < 2 ^ 64 := by
      rw [List.length_map, Nat.zero_add]
      omega
    have hReaches := (emitTiles_outTiles hStart).2 slot tile
      (by rw [List.getElem?_map, hTile]; rfl) (by rwa [Nat.zero_add])
    rwa [Nat.zero_add] at hReaches

/-- A valid patch is split into its tiles exactly when both loops can step past
its edges without a wrap, and the number of tiles can be counted. -/
theorem simFieldPatchSplitTiles_iff (patch : SimFieldPatch) (tileWidth tileHeight : ℕ)
    (outTiles : ℕ → SimFieldPatch) (outCapacity : ℕ) (hValid : patch.isValid = true)
    (hSized : patch.Sized) (hWidth : 0 < tileWidth) (hHeight : 0 < tileHeight) :
    SplitsIntoTiles patch tileWidth tileHeight outTiles outCapacity ↔
      TilingFits patch tileWidth tileHeight := by
  constructor
  · rintro ⟨fuel, s, tiles, hSplit, hEmitted, hTiles, hCount, _⟩
    have hPatch := SimFieldPatch.isValid_iff.mp hValid
    have hUsedWidth : 0 < min tileWidth patch.width := lt_min hWidth hPatch.1.1
    have hUsedHeight : 0 < min tileHeight patch.height := lt_min hHeight hPatch.2.1
    obtain ⟨rows, columns, hRows, hColumns, hLength, hWrapped⟩ :=
      simFieldPatchSplitTiles_some hValid hSplit
    rw [simFieldPatchTileSize_eq hWidth] at hColumns
    rw [simFieldPatchTileSize_eq hHeight] at hRows
    have hWidthSized : patch.width < 2 ^ 64 := Nat.lt_of_le_of_lt (by omega) hSized.1
    have hHeightSized : patch.height < 2 ^ 64 := Nat.lt_of_le_of_lt (by omega) hSized.2
    have hLeast := ends_ceilDiv_le hUsedWidth hPatch.1.1 hWidthSized.le hColumns
    have hLeastRows := ends_ceilDiv_le hUsedHeight hPatch.2.1 hHeightSized.le hRows
    have hFirst := (ceilDiv_spec hUsedWidth hPatch.1.1).1
    have hFirstRow := (ceilDiv_spec hUsedHeight hPatch.2.1).1
    rw [ceilDiv_min hPatch.1.1] at hLeast hFirst
    rw [ceilDiv_min hPatch.2.1] at hLeastRows hFirstRow
    rw [hEmitted, List.length_map, hTiles, Nat.mul_comm] at hLength
    -- more iterations of either loop would emit too many tiles
    have hSame : rows = ceilDiv patch.height tileHeight ∧ columns =
      ceilDiv patch.width tileWidth := by
      constructor
      · nlinarith
      · nlinarith
    rw [hSame.1, ← ceilDiv_min hPatch.2.1,
      ends_ceilDiv_iff hUsedHeight (min_le_right _ _) hHeightSized] at hRows
    rw [hSame.2, ← ceilDiv_min hPatch.1.1,
      ends_ceilDiv_iff hUsedWidth (min_le_right _ _) hWidthSized] at hColumns
    rw [ceilDiv_min hPatch.2.1] at hRows
    rw [ceilDiv_min hPatch.1.1] at hColumns
    refine ⟨hColumns, hRows, ?_⟩
    rw [← hTiles, ← hCount, hWrapped]
    exact Nat.mod_lt _ (by norm_num)
  · exact splitsIntoTiles_of_fits hValid hSized hWidth hHeight

theorem simFieldPatchSplitTiles_iff_quarters :
    SplitsIntoTiles ⟨1, 0, 3, 3, 4, 3, ⟨false, false, true⟩⟩ 2 2 (fun _ => ⟨0, 0, 0, 0, 0, 0,
      ⟨false, false, false⟩⟩) 6 :=
  (simFieldPatchSplitTiles_iff _ 2 2 _ 6 (by decide) ⟨by decide, by decide⟩ (by decide)
    (by decide)).mpr (by decide)

/-- From `2 ^ 63` the loop along a row of `2 ^ 64 - 1` cells goes back to its start. -/
theorem widestRow_neverSplit :
    ¬SplitsIntoTiles ⟨0, 0, 2 ^ 64 - 1, 1, 2 ^ 64 - 1, 1, ⟨true, true, true⟩⟩ (2 ^ 63) 1
      (fun _ => ⟨0, 0, 0, 0, 0, 0, ⟨false, false, false⟩⟩) 0 := by
  rintro ⟨fuel, s, tiles, hSplit, _⟩
  obtain ⟨_, columns, _, hColumns, _⟩ := simFieldPatchSplitTiles_some (by decide) hSplit
  have hEnd := hColumns.2
  change 2 ^ 64 - 1 ≤ columns * 2 ^ 63 % 2 ^ 64 at hEnd
  omega

end Split

end Oakfield
