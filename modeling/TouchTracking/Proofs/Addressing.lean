import TouchTracking.Proofs.Pictures

/-! The bytes behind the pixels. Every byte of a frame belongs to one channel of one pixel, so a frame is known once all
its pixels are. Reading, writing and clearing are set beside twins in which every access is checked, and fails if its
byte is not there or its number is below zero; the checks never fail, and the twins come to the same frame. -/
namespace TouchTracking.Raster

theorem toNat?_of_nonneg {n : Int} (nonneg : 0 ≤ n) : n.toNat? = some n.toNat := by
  obtain ⟨m, rfl⟩ := Int.eq_ofNat_of_zero_le nonneg
  rfl

namespace Image

theorem exists_place {image : Image} {index : Nat} (bound : index < image.bytes.size) :
    ∃ row column channel, row < image.height ∧ column < image.width ∧ channel < image.channels ∧
      image.offset row column + channel = index := by
  have area : index < image.channels * (image.width * image.height) := by
    rw [Nat.mul_comm]
    exact Nat.lt_of_lt_of_le bound (image.size_eq ▸ Nat.mod_le ..)
  have deep : 0 < image.channels := by
    apply Nat.pos_of_ne_zero
    intro none
    simp [none] at area
  have wide : 0 < image.width := by
    apply Nat.pos_of_ne_zero
    intro none
    simp [none] at area
  refine ⟨index / image.channels / image.width, index / image.channels % image.width, index % image.channels,
    Nat.div_lt_of_lt_mul (Nat.div_lt_of_lt_mul area), Nat.mod_lt _ wide, Nat.mod_lt _ deep, ?_⟩
  rw [offset, Nat.div_add_mod', Nat.div_add_mod']

theorem ext_get? {image other : Image} (width : image.width = other.width) (height : image.height = other.height)
    (channels : image.channels = other.channels)
    (same : ∀ row column channel, image.get? row column channel = other.get? row column channel) : image = other := by
  have bytes : image.bytes = other.bytes := by
    apply Array.ext_getElem?
    intro index
    by_cases bound : index < image.bytes.size
    · obtain ⟨row, column, channel, row_lt, column_lt, channel_lt, rfl⟩ := exists_place bound
      have offsets : image.offset row column = other.offset row column := by
        rw [offset, offset, width, channels]
      have shown := same row column channel
      rw [get?_inside ⟨row_lt, column_lt, channel_lt⟩,
        get?_inside ⟨height ▸ row_lt, width ▸ column_lt, channels ▸ channel_lt⟩, ← offsets] at shown
      exact shown
    · have sizes : other.bytes.size = image.bytes.size := by
        rw [image.size_eq, other.size_eq, width, height, channels]
      rw [Array.getElem?_eq_none (by omega), Array.getElem?_eq_none (by omega)]
  cases image
  cases other
  simp only at width height channels bytes
  subst width height channels bytes
  rfl

def read? (image : Image) (row column channel : Nat) : Option (Option UInt8) :=
  if row < image.height ∧ column < image.width ∧ channel < image.channels then
    (image.bytes[image.offset row column + channel]?).map some
  else some none

theorem read?_eq {image : Image} (addressable : image.Addressable) (row column channel : Nat) :
    image.read? row column channel = some (image.get? row column channel) := by
  unfold read?
  split
  next inside =>
    rw [get?_inside inside, Array.getElem?_eq_getElem (index_lt addressable inside.1 inside.2.1 inside.2.2)]
    rfl
  next outside => rw [get?_outside outside]

def put? (image : Image) (row column : Int) (color : List UInt8) : Option Image :=
  if image.contains row column then do
    let row ← row.toNat?
    let column ← column.toNat?
    if image.offset row column + image.channels ≤ image.bytes.size then some (image.paint row column color) else none
  else some image

theorem pixel_le {image : Image} (addressable : image.Addressable) {row column : Nat} (row_lt : row < image.height)
    (column_lt : column < image.width) :
    image.offset row column + image.channels ≤ image.bytes.size := by
  by_cases deep : 0 < image.channels
  · have last := index_lt addressable row_lt column_lt (Nat.sub_lt deep Nat.one_pos)
    omega
  · have none : image.channels = 0 := by omega
    simp [offset, none]

theorem put?_eq {image : Image} (addressable : image.Addressable) (row column : Int) (color : List UInt8) :
    image.put? row column color = some (image.put row column color) := by
  unfold put? put
  by_cases inside : image.contains row column = true
  · rw [if_pos inside, if_pos inside]
    simp only [contains, Bool.and_eq_true, decide_eq_true_eq] at inside
    have row_lt : row.toNat < image.height := by omega
    have column_lt : column.toNat < image.width := by omega
    have room := pixel_le addressable row_lt column_lt
    simp [toNat?_of_nonneg inside.1.1.1, toNat?_of_nonneg inside.1.2, room]
  · rw [if_neg inside, if_neg inside]

/-- The pixels of a rectangle, row by row, those outside any frame included. -/
def cellsOf (top left width height : Int) : List (Int × Int) :=
  (between top (top + height - 1)).flatMap fun row =>
    (between left (left + width - 1)).map fun column => (row, column)

theorem mem_cellsOf (top left width height row column : Int) :
    (row, column) ∈ cellsOf top left width height ↔
      (top ≤ row ∧ row < top + height) ∧ left ≤ column ∧ column < left + width := by
  simp only [cellsOf, List.mem_flatMap, List.mem_map, mem_between, Prod.mk.injEq]
  constructor
  · rintro ⟨row, rows, column, columns, rfl, rfl⟩
    omega
  · rintro ⟨rows, columns⟩
    exact ⟨row, by omega, column, by omega, rfl, rfl⟩

def putAll (image : Image) (color : List UInt8) (cells : List (Int × Int)) : Image :=
  cells.foldl (fun image cell => image.put cell.1 cell.2 color) image

def fillRect? (image : Image) (top left width height : Int) (value : UInt8) : Option Image :=
  (cellsOf top left width height).foldlM
    (fun pictured cell => pictured.put? cell.1 cell.2 (List.replicate image.channels value)) image

structure Shaped (width height channels : Nat) (image : Image) : Prop where
  width_eq : image.width = width
  height_eq : image.height = height
  channels_eq : image.channels = channels

section Shaped

variable {image : Image} {width height channels : Nat}

theorem Shaped.put (shaped : image.Shaped width height channels) (row column : Int) (color : List UInt8) :
    (image.put row column color).Shaped width height channels := by
  unfold Image.put
  split
  · exact ⟨shaped.width_eq, shaped.height_eq, shaped.channels_eq⟩
  · exact shaped

theorem Shaped.putAll (shaped : image.Shaped width height channels) (color : List UInt8) (cells : List (Int × Int)) :
    (image.putAll color cells).Shaped width height channels :=
  List.foldlRecOn cells _ shaped fun _ shaped cell _ => shaped.put cell.1 cell.2 color

theorem Shaped.fillRect (shaped : image.Shaped width height channels) (top left across down : Int) (value : UInt8) :
    (image.fillRect top left across down value).Shaped width height channels where
  width_eq := (size_fillRect image top left across down value).1.trans shaped.width_eq
  height_eq := (size_fillRect image top left across down value).2.trans shaped.height_eq
  channels_eq := (channels_fillRect image top left across down value).trans shaped.channels_eq

theorem Shaped.addressable (shaped : image.Shaped width height channels)
    (countable : width * height * channels < addressLimit) : image.Addressable := by
  rw [Addressable, shaped.width_eq, shaped.height_eq, shaped.channels_eq]
  exact countable

end Shaped

theorem Addressable.put {image : Image} (addressable : image.Addressable) (row column : Int) (color : List UInt8) :
    (image.put row column color).Addressable :=
  (Shaped.put ⟨rfl, rfl, rfl⟩ row column color).addressable addressable

theorem Addressable.fillRect {image : Image} (addressable : image.Addressable) (top left width height : Int)
    (value : UInt8) : (image.fillRect top left width height value).Addressable :=
  (Shaped.fillRect ⟨rfl, rfl, rfl⟩ top left width height value).addressable addressable

theorem get?_putAll (image : Image) (value : UInt8) (cells : List (Int × Int)) (row column channel : Nat) :
    (image.putAll (List.replicate image.channels value) cells).get? row column channel =
      (image.get? row column channel).map fun old =>
        if ((row : Int), (column : Int)) ∈ cells then value else old := by
  rw [putAll, get?_foldl_put]
  by_cases known : channel < image.channels
  · rw [List.getElem?_replicate_of_lt known]
    rfl
  · rw [get?_outside fun inside => known inside.2.2]
    rfl

theorem foldlM_put? {image : Image} (addressable : image.Addressable) (color : List UInt8) (cells : List (Int × Int)) :
    cells.foldlM (fun pictured cell => pictured.put? cell.1 cell.2 color) image = some (image.putAll color cells) := by
  induction cells generalizing image with
  | nil => rfl
  | cons cell cells ih =>
    rw [List.foldlM_cons, put?_eq addressable, Option.bind_eq_bind, Option.bind_some, ih (addressable.put ..)]
    rfl

/-- Writing changes nothing outside the frame, so that it makes no difference to clip the rectangle in advance. -/
theorem fillRect?_eq {image : Image} (addressable : image.Addressable) (top left width height : Int) (value : UInt8) :
    image.fillRect? top left width height value = some (image.fillRect top left width height value) := by
  have shaped : image.Shaped image.width image.height image.channels := ⟨rfl, rfl, rfl⟩
  have stepwise := shaped.putAll (List.replicate image.channels value) (cellsOf top left width height)
  have clipped := shaped.fillRect top left width height value
  rw [fillRect?, foldlM_put? addressable, Option.some.injEq]
  apply ext_get? (stepwise.width_eq.trans clipped.width_eq.symm) (stepwise.height_eq.trans clipped.height_eq.symm)
    (stepwise.channels_eq.trans clipped.channels_eq.symm)
  intro row column channel
  simp only [get?_putAll, get?_fillRect, mem_cellsOf]

end Image

/-- One change to an image. -/
inductive Stroke
  | put (row column : Int) (color : List UInt8)
  | fill (top left width height : Int) (value : UInt8)

namespace Stroke

def onto (image : Image) : Stroke → Image
  | .put row column color => image.put row column color
  | .fill top left width height value => image.fillRect top left width height value

def onto? (image : Image) : Stroke → Option Image
  | .put row column color => image.put? row column color
  | .fill top left width height value => image.fillRect? top left width height value

/-- What a stroke has for one channel of a pixel, if it reaches that pixel. -/
def byte? : Stroke → (row column channel : Nat) → Option UInt8
  | .put row' column' color, row, column, channel =>
    if (row : Int) = row' ∧ (column : Int) = column' then color[channel]? else none
  | .fill top left width height value, row, column, _ =>
    if (top ≤ row ∧ (row : Int) < top + height) ∧ left ≤ column ∧ (column : Int) < left + width then some value
    else none

theorem onto?_eq {image : Image} (addressable : image.Addressable) (stroke : Stroke) :
    stroke.onto? image = some (stroke.onto image) := by
  cases stroke with
  | put row column color => exact Image.put?_eq addressable row column color
  | fill top left width height value => exact Image.fillRect?_eq addressable top left width height value

theorem addressable_onto {image : Image} (addressable : image.Addressable) (stroke : Stroke) :
    (stroke.onto image).Addressable := by
  cases stroke with
  | put row column color => exact addressable.put ..
  | fill top left width height value => exact addressable.fillRect ..

theorem shaped_onto {image : Image} {width height channels : Nat} (shaped : image.Shaped width height channels)
    (stroke : Stroke) : (stroke.onto image).Shaped width height channels := by
  cases stroke with
  | put row column color => exact shaped.put row column color
  | fill top left across down value => exact shaped.fillRect top left across down value

/-- Every byte of the frame becomes the one that the stroke has for it, or stays if there is none. -/
theorem get?_onto (image : Image) (stroke : Stroke) (row column channel : Nat) :
    (stroke.onto image).get? row column channel =
      (image.get? row column channel).map fun old => (stroke.byte? row column channel).getD old := by
  cases stroke with
  | put row' column' color =>
    rw [onto, Image.get?_put]
    congr 1
    funext old
    by_cases here : (row : Int) = row' ∧ (column : Int) = column' <;> simp [byte?, here]
  | fill top left width height value =>
    rw [onto, Image.get?_fillRect]
    congr 1
    funext old
    simp only [byte?]
    split <;> rfl

end Stroke

namespace Image

def drawn (image : Image) (strokes : List Stroke) : Image := strokes.foldl Stroke.onto image

def drawn? (image : Image) (strokes : List Stroke) : Option Image := strokes.foldlM Stroke.onto? image

theorem drawn?_eq {image : Image} (addressable : image.Addressable) (strokes : List Stroke) :
    image.drawn? strokes = some (image.drawn strokes) := by
  induction strokes generalizing image with
  | nil => rfl
  | cons stroke strokes ih =>
    rw [drawn?, List.foldlM_cons, Stroke.onto?_eq addressable, Option.bind_eq_bind, Option.bind_some]
    exact ih (stroke.addressable_onto addressable)

theorem Shaped.drawn {image : Image} {width height channels : Nat} (shaped : image.Shaped width height channels)
    (strokes : List Stroke) : (image.drawn strokes).Shaped width height channels :=
  List.foldlRecOn strokes _ shaped fun _ shaped stroke _ => stroke.shaped_onto shaped

/-- Every byte of the frame is the one that the last stroke to reach it has for it. -/
theorem get?_drawn (image : Image) (strokes : List Stroke) (row column channel : Nat) :
    (image.drawn strokes).get? row column channel = (image.get? row column channel).map fun old =>
      (strokes.reverse.findSome? (·.byte? row column channel)).getD old := by
  induction strokes generalizing image with
  | nil => simp [drawn]
  | cons stroke strokes ih =>
    refine (ih (stroke.onto image)).trans ?_
    rw [Stroke.get?_onto, Option.map_map, List.reverse_cons, List.findSome?_append]
    congr 1
    funext old
    cases strokes.reverse.findSome? (·.byte? row column channel) with
    | none =>
      cases known : stroke.byte? row column channel <;> simp [known]
    | some byte => rfl

end Image

namespace Mask

def isForeground? (mask : Mask) (row column : Int) : Option Bool :=
  if mask.image.contains row column then do
    let row ← row.toNat?
    let column ← column.toNat?
    (mask.image.bytes[row * mask.width + column]?).map (· == foreground)
  else some false

/-- Clears the bytes from the first to the last one, and fails unless they are there, in this order. -/
def wipe? (bytes : Array UInt8) (first last : Nat) : Option (Array UInt8) :=
  if first ≤ last ∧ last < bytes.size then some (overwrite bytes first (List.replicate (last + 1 - first) 0)) else none

/-- Clears a box, run by run, in the rows and columns that it has in common with the mask. -/
def erase? (mask : Mask) (top left bottom right : Int) : Option (Array UInt8) :=
  let top := max top 0
  let left := max left 0
  let bottom := min bottom (mask.height - 1)
  let right := min right (mask.width - 1)
  if bottom < top ∨ right < left then some mask.image.bytes
  else do
    let top ← top.toNat?
    let left ← left.toNat?
    let bottom ← bottom.toNat?
    let right ← right.toNat?
    (List.range' top (bottom + 1 - top)).foldlM
      (fun bytes row => wipe? bytes (row * mask.width + left) (row * mask.width + right)) mask.image.bytes

theorem index_lt {mask : Mask} (addressable : mask.image.Addressable) {row column : Nat} (row_lt : row < mask.height)
    (column_lt : column < mask.width) :
    row * mask.width + column < mask.image.bytes.size := by
  have bound : mask.image.offset row column + 0 < mask.image.bytes.size :=
    Image.index_lt addressable row_lt column_lt (by rw [mask.channels_eq]; decide)
  rw [Image.offset, mask.channels_eq, Nat.mul_one] at bound
  exact bound

theorem exists_place {mask : Mask} {index : Nat} (bound : index < mask.image.bytes.size) :
    ∃ row column, row < mask.height ∧ column < mask.width ∧ row * mask.width + column = index := by
  obtain ⟨row, column, channel, row_lt, column_lt, channel_lt, place⟩ := Image.exists_place bound
  rw [mask.channels_eq] at channel_lt
  obtain rfl : channel = 0 := by omega
  rw [Image.offset, mask.channels_eq, Nat.mul_one] at place
  exact ⟨row, column, row_lt, column_lt, place⟩

theorem get?_eq {mask : Mask} {row column : Nat} (row_lt : row < mask.height) (column_lt : column < mask.width) :
    mask.image.get? row column 0 = mask.image.bytes[row * mask.width + column]? := by
  rw [Image.get?_inside ⟨row_lt, column_lt, by rw [mask.channels_eq]; decide⟩, Image.offset, mask.channels_eq,
    Nat.mul_one]
  rfl

theorem isForeground?_eq {mask : Mask} (addressable : mask.image.Addressable) (row column : Int) :
    mask.isForeground? row column = some (mask.isForeground row column) := by
  unfold isForeground? isForeground
  by_cases inside : mask.image.contains row column = true
  · rw [if_pos inside, inside]
    simp only [Image.contains, Bool.and_eq_true, decide_eq_true_eq] at inside
    have bound := @index_lt mask addressable row.toNat column.toNat (by simp only [height]; omega)
      (by simp only [width]; omega)
    rw [toNat?_of_nonneg inside.1.1.1, toNat?_of_nonneg inside.1.2, get?_eq (by simp only [height]; omega)
      (by simp only [width]; omega)]
    simp [bound]
  · rw [if_neg inside]
    simp [inside]

theorem foldlM_wipe {width left right : Nat} (order : left ≤ right) (rows : List Nat) {bytes : Array UInt8}
    (inside : ∀ row ∈ rows, row * width + right < bytes.size) :
    ∃ wiped, rows.foldlM (fun bytes row => wipe? bytes (row * width + left) (row * width + right)) bytes = some wiped ∧
      wiped.size = bytes.size ∧ ∀ index < bytes.size, wiped[index]? =
        if ∃ row ∈ rows, row * width + left ≤ index ∧ index ≤ row * width + right then some 0 else bytes[index]? := by
  induction rows generalizing bytes with
  | nil => exact ⟨bytes, rfl, rfl, by simp⟩
  | cons row rows ih =>
    have here := inside row List.mem_cons_self
    have first : wipe? bytes (row * width + left) (row * width + right) =
        some (overwrite bytes (row * width + left) (List.replicate (right + 1 - left) 0)) := by
      rw [wipe?, if_pos ⟨by omega, here⟩]
      congr 3
      omega
    have size := size_overwrite bytes (row * width + left) (List.replicate (right + 1 - left) 0)
    obtain ⟨wiped, run, sizes, shown⟩ := @ih (overwrite bytes (row * width + left) _) (by
      intro later member
      rw [size]
      exact inside later (List.mem_cons_of_mem _ member))
    refine ⟨wiped, ?_, sizes.trans size, fun index bound => ?_⟩
    · rw [List.foldlM_cons, first]
      exact run
    · rw [shown index (size ▸ bound), getElem?_overwrite _ _ _ _ bound, List.length_replicate]
      by_cases later : ∃ row ∈ rows, row * width + left ≤ index ∧ index ≤ row * width + right
      · simp [later]
      · by_cases now : row * width + left ≤ index ∧ index ≤ row * width + right
        · rw [if_neg later, if_pos (by omega), if_pos ⟨row, List.mem_cons_self, now⟩,
            List.getElem?_replicate_of_lt (by omega)]
        · rw [if_neg later, if_neg (by omega), if_neg]
          rintro ⟨other, member, reached⟩
          rcases List.mem_cons.mp member with rfl | member
          · exact now reached
          · exact later ⟨other, member, reached⟩

theorem getElem?_erase {mask : Mask} (addressable : mask.image.Addressable) (top left bottom right : Int)
    {row column : Nat} (row_lt : row < mask.height) (column_lt : column < mask.width) :
    (mask.erase top left bottom right).image.bytes[row * mask.width + column]? =
      if (top ≤ row ∧ (row : Int) ≤ bottom) ∧ left ≤ column ∧ (column : Int) ≤ right then some 0
      else mask.image.bytes[row * mask.width + column]? := by
  have shown := @get?_eq (mask.erase top left bottom right) row column (by simpa using row_lt)
    (by simpa using column_lt)
  rw [width_erase] at shown
  have bound := index_lt addressable row_lt column_lt
  rw [← shown, ← get?_eq row_lt column_lt, erase, Image.get?_fillRect, get?_eq row_lt column_lt,
    Array.getElem?_eq_getElem bound, Option.map_some]
  simp only [Int.lt_iff_add_one_le]
  split <;> split <;> first | rfl | omega

theorem size_erase (mask : Mask) (top left bottom right : Int) :
    (mask.erase top left bottom right).image.bytes.size = mask.image.bytes.size := by
  have before : mask.image.Shaped mask.image.width mask.image.height mask.image.channels := ⟨rfl, rfl, rfl⟩
  have shaped := before.fillRect top left (right - left + 1) (bottom - top + 1) 0
  rw [Image.size_eq, Image.size_eq, erase, shaped.width_eq, shaped.height_eq, shaped.channels_eq]

theorem ext_places {mask : Mask} {bytes other : Array UInt8} (size : bytes.size = mask.image.bytes.size)
    (size' : other.size = mask.image.bytes.size)
    (same : ∀ row column, row < mask.height → column < mask.width →
      bytes[row * mask.width + column]? = other[row * mask.width + column]?) : bytes = other := by
  apply Array.ext_getElem?
  intro index
  by_cases bound : index < mask.image.bytes.size
  · obtain ⟨row, column, row_lt, column_lt, rfl⟩ := exists_place bound
    exact same row column row_lt column_lt
  · rw [Array.getElem?_eq_none (by omega), Array.getElem?_eq_none (by omega)]

/-- The runs of a box end within their rows, so that a run of one row reaches no place of another one. -/
theorem reached_iff {width row column left right : Nat} (column_lt : column < width) (right_lt : right < width)
    (rows : List Nat) :
    (∃ other ∈ rows, other * width + left ≤ row * width + column ∧ row * width + column ≤ other * width + right) ↔
      row ∈ rows ∧ left ≤ column ∧ column ≤ right := by
  constructor
  · rintro ⟨other, member, low, high⟩
    have split : row * width + column = other * width + (row * width + column - other * width) := by omega
    obtain ⟨rfl, -⟩ := digits_unique column_lt (by omega) split
    exact ⟨member, by omega, by omega⟩
  · rintro ⟨member, low, high⟩
    exact ⟨row, member, by omega, by omega⟩

theorem erase?_eq {mask : Mask} (addressable : mask.image.Addressable) (top left bottom right : Int) :
    mask.erase? top left bottom right = some (mask.erase top left bottom right).image.bytes := by
  have sizes := size_erase mask top left bottom right
  unfold erase?
  simp only
  split
  next empty =>
    rw [Option.some.injEq]
    apply ext_places rfl sizes
    intro row column row_lt column_lt
    rw [getElem?_erase addressable _ _ _ _ row_lt column_lt, if_neg (by omega)]
  next filled =>
    -- Between the ends that were cut off nothing wraps: all four are places in the mask.
    obtain ⟨first, first_eq⟩ := Int.eq_ofNat_of_zero_le (Int.le_max_right top 0)
    obtain ⟨start, start_eq⟩ := Int.eq_ofNat_of_zero_le (Int.le_max_right left 0)
    obtain ⟨last, last_eq⟩ := Int.eq_ofNat_of_zero_le (show 0 ≤ min bottom (mask.height - 1) by omega)
    obtain ⟨stop, stop_eq⟩ := Int.eq_ofNat_of_zero_le (show 0 ≤ min right (mask.width - 1) by omega)
    rw [first_eq, start_eq, last_eq, stop_eq] at filled ⊢
    obtain ⟨wiped, run, kept, shown⟩ := @foldlM_wipe mask.width start stop (by omega)
      (List.range' first (last + 1 - first)) mask.image.bytes (by
        intro row member
        have reached := List.mem_range'_1.mp member
        exact index_lt addressable (by omega) (by omega))
    refine run.trans ?_
    rw [Option.some.injEq]
    apply ext_places kept sizes
    intro row column row_lt column_lt
    rw [shown _ (index_lt addressable row_lt column_lt), getElem?_erase addressable _ _ _ _ row_lt column_lt]
    congr 1
    apply propext
    rw [reached_iff column_lt (by omega), List.mem_range'_1]
    omega

end Mask

/-- An image of the given sides: a blank one, as long as its bytes can be counted, or one of given bytes. -/
inductive Image.Made (width height channels : Nat) : Image → Prop
  | blank (countable : width * height * channels < addressLimit) :
    Made width height channels (.blank width height channels)
  | taken {bytes : Array UInt8} {image : Image} (accepted : ofBytes width height channels bytes = .ok image) :
    Made width height channels image

/-- Bytes that are taken over are as many as the sides ask for, so that they are not too many to be counted. -/
theorem Image.Made.shaped {width height channels : Nat} {image : Image} (made : image.Made width height channels) :
    image.Shaped width height channels ∧ width * height * channels < addressLimit := by
  cases made with
  | blank countable => exact ⟨⟨rfl, rfl, rfl⟩, countable⟩
  | taken accepted =>
    unfold ofBytes at accepted
    split at accepted
    · cases accepted
    · split at accepted
      · cases accepted
      next small =>
        split at accepted
        · cases accepted
          exact ⟨⟨rfl, rfl, rfl⟩, Nat.lt_of_not_le small⟩
        · cases accepted

/-- What reading and writing come to on an image of the given sides, with every access checked. -/
structure Image.Addressed (width height channels : Nat) (image : Image) : Prop
    extends image.Shaped width height channels where
  size : image.bytes.size = width * height * channels
  read : ∀ row column channel, image.read? row column channel = some (image.get? row column channel)
  there : ∀ row column channel, (image.get? row column channel).isSome = true ↔
    row < height ∧ column < width ∧ channel < channels
  put : ∀ (row column : Int) (color : List UInt8) (row' column' channel : Nat),
    (image.put row column color).get? row' column' channel = (image.get? row' column' channel).map fun old =>
      if (row' : Int) = row ∧ (column' : Int) = column then color[channel]?.getD old else old
  fill : ∀ (top left across down : Int) (value : UInt8) (row column channel : Nat),
    (image.fillRect top left across down value).get? row column channel = (image.get? row column channel).map fun old =>
      if (top ≤ row ∧ (row : Int) < top + down) ∧ left ≤ column ∧ (column : Int) < left + across then value else old

/-- What testing and clearing come to on a mask, with every access checked. -/
structure Mask.Addressed (mask : Mask) : Prop where
  read : ∀ row column, mask.isForeground? row column = some (mask.isForeground row column)
  clear : ∀ bounds : Bounds, mask.erase? bounds.top bounds.left bounds.bottom bounds.right =
    some (mask.erase bounds.top bounds.left bounds.bottom bounds.right).image.bytes
  cleared : ∀ (bounds : Bounds) (row column : Int),
    (mask.erase bounds.top bounds.left bounds.bottom bounds.right).isForeground row column = true ↔
      mask.isForeground row column = true ∧ ¬ bounds.Covers row column

theorem Image.Shaped.addressed {width height channels : Nat} {image : Image}
    (shaped : image.Shaped width height channels) (countable : width * height * channels < addressLimit) :
    image.Addressed width height channels := by
  have addressable := shaped.addressable countable
  obtain ⟨rfl, rfl, rfl⟩ := shaped
  exact {
    width_eq := rfl
    height_eq := rfl
    channels_eq := rfl
    size := addressable.size
    read := read?_eq addressable
    there := addressable.isSome_get?_iff
    put := image.get?_put
    fill := image.get?_fillRect }

/-- However an image was made, as long as its bytes can be counted, and whatever was drawn on it, no access misses the
bytes, which stay as many as its sides ask for; every byte of the frame is the one that the last stroke to reach it has
for it, or the one from the beginning; and a box that is cleared in a mask takes its own pixels out of the foreground,
and no other. -/
theorem pixels_addressed {width height channels : Nat} {image : Image} (made : image.Made width height channels)
    (strokes : List Stroke) :
    image.drawn? strokes = some (image.drawn strokes) ∧
    (image.drawn strokes).Addressed width height channels ∧
    (∀ row column channel, (image.drawn strokes).get? row column channel =
      (image.get? row column channel).map fun old =>
        (strokes.reverse.findSome? (·.byte? row column channel)).getD old) ∧
    ∀ mask : Mask, mask.width < 2 ^ 32 → mask.height < 2 ^ 32 → mask.Addressed := by
  obtain ⟨shaped, countable⟩ := made.shaped
  refine ⟨Image.drawn?_eq (shaped.addressable countable) strokes, (shaped.drawn strokes).addressed countable,
    image.get?_drawn strokes, fun mask wide high => ?_⟩
  have addressable : mask.image.Addressable := Image.addressable_of_words mask.channels_eq wide high
  exact ⟨Mask.isForeground?_eq addressable, fun _ => Mask.erase?_eq addressable .., mask.isForeground_erase⟩

/-- Strokes beside a small frame, across its border, over each other, and with fewer or more bytes than a pixel has. -/
def strokes : List Stroke :=
  [.put (-1) 0 [9, 9], .fill (-2) 1 9 3 7, .put 1 2 [5], .put 0 0 [1, 2, 3], .fill 1 1 (-4) 1 8, .put 2 0 [6, 6]]

theorem pixels_addressed_strokes :
    (Image.blank 3 2 2).Made 3 2 2 ∧
    ((Image.blank 3 2 2).drawn strokes).bytes = #[1, 2, 7, 7, 7, 7, 0, 0, 0, 0, 5, 0] ∧
    (Image.blank 3 2 2).drawn? strokes = some ((Image.blank 3 2 2).drawn strokes) ∧
    ((Image.blank 3 2 2).drawn strokes).Addressed 3 2 2 ∧
    (∀ row column channel, ((Image.blank 3 2 2).drawn strokes).get? row column channel =
      ((Image.blank 3 2 2).get? row column channel).map fun old =>
        (strokes.reverse.findSome? (·.byte? row column channel)).getD old) ∧
    ∀ mask : Mask, mask.width < 2 ^ 32 → mask.height < 2 ^ 32 → mask.Addressed :=
  ⟨.blank (by decide), by decide +kernel, pixels_addressed (.blank (by decide)) strokes⟩

theorem Image.misses_of_no_bytes {image : Image} (bare : image.bytes.size = 0) {row column channel : Nat}
    (inside : row < image.height ∧ column < image.width ∧ channel < image.channels) (color : List UInt8) :
    image.read? row column channel = none ∧ image.put? row column color = none := by
  have held : image.contains row column = true := by
    simp only [contains, Bool.and_eq_true, decide_eq_true_eq]
    omega
  constructor
  · rw [read?, if_pos inside, Array.getElem?_eq_none (by omega)]
    rfl
  · have short : ¬ image.offset row column + image.channels ≤ image.bytes.size := by omega
    rw [put?, if_pos held]
    exact if_neg short

/-- The bytes of a blank image of these sides are too many to be counted, so that it is left with none: in the very
first pixel of the frame there is nothing to read, and no room to write. -/
theorem blank_without_bytes :
    let image := Image.blank (2 ^ 31) (2 ^ 31) 4
    (image.height = 2 ^ 31 ∧ image.width = 2 ^ 31 ∧ image.channels = 4) ∧ image.bytes.size = 0 ∧
      image.read? 0 0 0 = none ∧ image.put? 0 0 [1, 2, 3, 4] = none := by
  intro image
  have bare : image.bytes.size = 0 := image.size_eq.trans (by decide)
  exact ⟨⟨rfl, rfl, rfl⟩, bare, Image.misses_of_no_bytes bare ⟨by decide, by decide, by decide⟩ [1, 2, 3, 4]⟩

end TouchTracking.Raster
