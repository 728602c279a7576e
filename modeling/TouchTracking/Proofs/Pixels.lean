import TouchTracking.Raster.Mask
import TouchTracking.Proofs.Boxes

/-! Where a pixel lies among the bytes, and what drawing and clearing change: the pixels aimed at that
are in the frame, and no others. -/
namespace TouchTracking.Raster

theorem getElem?_overwrite (bytes : Array UInt8) (offset : Nat) (values : List UInt8) (index : Nat)
    (bound : index < bytes.size) :
    (overwrite bytes offset values)[index]? =
      if offset ≤ index ∧ index < offset + values.length then values[index - offset]?
      else bytes[index]? := by
  induction values generalizing bytes offset with
  | nil =>
    rw [if_neg (by simp only [List.length_nil]; omega)]
    rfl
  | cons value rest ih =>
    rw [overwrite, ih _ _ (by simpa using bound), Array.getElem?_setIfInBounds, List.length_cons]
    by_cases here : offset = index
    · subst here
      rw [if_neg (by omega), if_pos rfl, if_pos bound, if_pos (by omega), Nat.sub_self]
      rfl
    · rw [if_neg here]
      by_cases later : offset + 1 ≤ index ∧ index < offset + 1 + rest.length
      · have next : index - offset = index - (offset + 1) + 1 := by omega
        rw [if_pos later, if_pos (by omega), next]
        rfl
      · rw [if_neg later, if_neg (by omega)]

/-- A number below `base` and a multiple of `base` can be read back from their sum. -/
theorem digits_unique {base high low high' low' : Nat} (low_lt : low < base) (low'_lt : low' < base)
    (same : high * base + low = high' * base + low') : high = high' ∧ low = low' := by
  have lows : low = low' := by
    have rest := congrArg (· % base) same
    simpa [Nat.mod_eq_of_lt low_lt, Nat.mod_eq_of_lt low'_lt] using rest
  subst lows
  exact ⟨Nat.eq_of_mul_eq_mul_right (Nat.zero_lt_of_lt low_lt) (Nat.add_right_cancel same), rfl⟩

namespace Image

/-- Different places in the frame have different bytes. -/
theorem index_unique {image : Image} {row column channel row' column' channel' : Nat}
    (column_lt : column < image.width) (column'_lt : column' < image.width)
    (channel_lt : channel < image.channels) (channel'_lt : channel' < image.channels)
    (same : image.offset row column + channel = image.offset row' column' + channel') :
    row = row' ∧ column = column' ∧ channel = channel' := by
  obtain ⟨pixels, channels⟩ := digits_unique channel_lt channel'_lt same
  obtain ⟨rows, columns⟩ := digits_unique column_lt column'_lt pixels
  exact ⟨rows, columns, channels⟩

/-- The bytes of the image can be counted, so that there is one for every channel of every pixel. -/
def Addressable (image : Image) : Prop := image.width * image.height * image.channels < addressLimit

instance (image : Image) : Decidable image.Addressable := inferInstanceAs (Decidable (_ < _))

theorem Addressable.size {image : Image} (addressable : image.Addressable) :
    image.bytes.size = image.width * image.height * image.channels := by
  rw [image.size_eq, Nat.mod_eq_of_lt addressable]

/-- The bytes of an image in one channel can be counted, if its sides are words of 32 bits. -/
theorem addressable_of_words {image : Image} (gray : image.channels = 1) (wide : image.width < 2 ^ 32)
    (high : image.height < 2 ^ 32) : image.Addressable := by
  rw [Addressable, gray, Nat.mul_one]
  calc image.width * image.height
    _ ≤ (2 ^ 32 - 1) * (2 ^ 32 - 1) := Nat.mul_le_mul (Nat.le_pred_of_lt wide) (Nat.le_pred_of_lt high)
    _ < addressLimit := by decide

theorem index_lt {image : Image} (addressable : image.Addressable) {row column channel : Nat}
    (row_lt : row < image.height) (column_lt : column < image.width) (channel_lt : channel < image.channels) :
    image.offset row column + channel < image.bytes.size := by
  have pixel : row * image.width + column + 1 ≤ image.width * image.height := by
    calc row * image.width + column + 1
      _ ≤ row * image.width + image.width := by omega
      _ = (row + 1) * image.width := (Nat.succ_mul ..).symm
      _ ≤ image.height * image.width := Nat.mul_le_mul_right _ row_lt
      _ = image.width * image.height := Nat.mul_comm ..
  calc image.offset row column + channel
    _ < (row * image.width + column) * image.channels + image.channels := by
      simp only [offset]; omega
    _ = (row * image.width + column + 1) * image.channels := (Nat.succ_mul ..).symm
    _ ≤ image.width * image.height * image.channels := Nat.mul_le_mul_right _ pixel
    _ = image.bytes.size := addressable.size.symm

theorem get?_inside {image : Image} {row column channel : Nat}
    (inside : row < image.height ∧ column < image.width ∧ channel < image.channels) :
    image.get? row column channel = image.bytes[image.offset row column + channel]? := if_pos inside

theorem get?_outside {image : Image} {row column channel : Nat}
    (outside : ¬ (row < image.height ∧ column < image.width ∧ channel < image.channels)) :
    image.get? row column channel = none := if_neg outside

/-- There is a byte to read in exactly the places of the frame. -/
theorem Addressable.isSome_get?_iff {image : Image} (addressable : image.Addressable) (row column channel : Nat) :
    (image.get? row column channel).isSome = true ↔
      row < image.height ∧ column < image.width ∧ channel < image.channels := by
  by_cases inside : row < image.height ∧ column < image.width ∧ channel < image.channels
  · have bound := index_lt addressable inside.1 inside.2.1 inside.2.2
    simp [get?_inside inside, inside, bound]
  · simp [get?_outside inside, inside]

theorem eq_zero_of_get?_blank {width height channels row column channel : Nat} {value : UInt8}
    (shown : (blank width height channels).get? row column channel = some value) : value = 0 := by
  unfold get? at shown
  split at shown
  · simp only [blank, Array.getElem?_replicate] at shown
    split at shown
    · exact (Option.some.inj shown).symm
    · cases shown
  · cases shown

theorem get?_blank {width height channels row column channel : Nat}
    (addressable : (blank width height channels).Addressable) (row_lt : row < height)
    (column_lt : column < width) (channel_lt : channel < channels) :
    (blank width height channels).get? row column channel = some 0 := by
  obtain ⟨value, shown⟩ := Option.isSome_iff_exists.mp
    ((addressable.isSome_get?_iff row column channel).mpr ⟨row_lt, column_lt, channel_lt⟩)
  rw [shown, eq_zero_of_get?_blank shown]

section Paint

variable (image : Image) (row column : Nat) (color : List UInt8)

theorem bytes_paint : (image.paint row column color).bytes =
    overwrite image.bytes (image.offset row column) (color.take image.channels) := rfl

/-- Painting changes the channels that the colour has in one pixel, as far as there are bytes for them. -/
theorem get?_paint (column_lt : column < image.width) (row' column' channel : Nat) :
    (image.paint row column color).get? row' column' channel =
      (image.get? row' column' channel).map fun old =>
        if row' = row ∧ column' = column then color[channel]?.getD old else old := by
  by_cases valid : row' < image.height ∧ column' < image.width ∧ channel < image.channels
  · rw [get?_inside valid, @get?_inside (image.paint row column color) _ _ _ valid, bytes_paint]
    change (overwrite ..)[image.offset row' column' + channel]? = _
    by_cases bound : image.offset row' column' + channel < image.bytes.size
    · rw [getElem?_overwrite _ _ _ _ bound, List.length_take]
      by_cases aimed : row' = row ∧ column' = column
      · obtain ⟨rfl, rfl⟩ := aimed
        rw [Nat.add_sub_cancel_left, List.getElem?_take_of_lt valid.2.2, Array.getElem?_eq_getElem bound,
          Option.map_some, if_pos (And.intro rfl rfl)]
        by_cases painted : channel < color.length
        · rw [if_pos (by omega), List.getElem?_eq_getElem painted]
          rfl
        · rw [if_neg (by omega), List.getElem?_eq_none (Nat.le_of_not_lt painted)]
          rfl
      · rw [if_neg, Array.getElem?_eq_getElem bound, Option.map_some, if_neg aimed]
        rintro ⟨low, high⟩
        have split : image.offset row' column' + channel = image.offset row column +
          (image.offset row' column' + channel - image.offset row column) := by omega
        obtain ⟨rows, columns, -⟩ := index_unique valid.2.1 column_lt valid.2.2 (by omega) split
        exact aimed ⟨rows, columns⟩
    · rw [Array.getElem?_eq_none (by simpa using bound), Array.getElem?_eq_none (by omega)]
      rfl
  · rw [get?_outside valid, @get?_outside (image.paint row column color) _ _ _ valid]
    rfl

end Paint

/-- Writing a pixel of the frame changes the channels that the colour has, and nothing else. -/
theorem get?_put (image : Image) (row column : Int) (color : List UInt8) (row' column' channel : Nat) :
    (image.put row column color).get? row' column' channel =
      (image.get? row' column' channel).map fun old =>
        if (row' : Int) = row ∧ (column' : Int) = column then color[channel]?.getD old else old := by
  unfold put
  split
  next inside =>
    simp only [contains, Bool.and_eq_true, decide_eq_true_eq] at inside
    rw [get?_paint _ _ _ _ (by omega)]
    congr 1
    funext old
    congr 1
    apply propext
    omega
  next outside =>
    simp only [contains, Bool.and_eq_true, decide_eq_true_eq] at outside
    by_cases valid : row' < image.height ∧ column' < image.width ∧ channel < image.channels
    · simp only [show ¬ ((row' : Int) = row ∧ (column' : Int) = column) by omega, if_false, Option.map_id']
    · rw [get?_outside valid]
      rfl

theorem mem_span (start count : Int) (limit index : Nat) :
    index ∈ span start count limit ↔
      index < limit ∧ start ≤ index ∧ (index : Int) < start + count := by
  simp only [span, List.mem_range'_1]
  omega

def paintAll (image : Image) (color : List UInt8) (pixels : List (Nat × Nat)) : Image :=
  pixels.foldl (fun image pixel => image.paint pixel.1 pixel.2 color) image

theorem get?_paintAll {image : Image} {pixels : List (Nat × Nat)} (value : UInt8)
    (inside : ∀ pixel ∈ pixels, pixel.2 < image.width) (row column channel : Nat) :
    (image.paintAll (List.replicate image.channels value) pixels).get? row column channel =
      (image.get? row column channel).map fun old => if (row, column) ∈ pixels then value else old := by
  induction pixels generalizing image with
  | nil => simp [paintAll]
  | cons pixel pixels ih =>
    have later := @ih (image.paint pixel.1 pixel.2 (List.replicate image.channels value))
      fun pixel member => inside pixel (List.mem_cons_of_mem _ member)
    refine later.trans ?_
    rw [get?_paint _ _ _ _ (inside pixel List.mem_cons_self), Option.map_map]
    by_cases known : channel < image.channels
    · rw [List.getElem?_replicate_of_lt known]
      congr 1
      funext old
      by_cases rest : (row, column) ∈ pixels
      · simp [rest]
      · simp [rest, Prod.ext_iff]
    · rw [get?_outside (by omega)]
      rfl

def pixelsOf (image : Image) (top left width height : Int) : List (Nat × Nat) :=
  (span top height image.height).flatMap fun row =>
    (span left width image.width).map fun column => (row, column)

theorem mem_pixelsOf (image : Image) (top left width height : Int) (row column : Nat) :
    (row, column) ∈ image.pixelsOf top left width height ↔
      (row < image.height ∧ top ≤ row ∧ (row : Int) < top + height) ∧
      column < image.width ∧ left ≤ column ∧ (column : Int) < left + width := by
  simp [pixelsOf, mem_span]

theorem fillRect_eq (image : Image) (top left width height : Int) (value : UInt8) :
    image.fillRect top left width height value =
      if image.bytes.size = 0 then image
      else image.paintAll (List.replicate image.channels value)
        (image.pixelsOf top left width height) := by
  simp only [fillRect, paintAll, pixelsOf, List.foldl_flatMap, List.foldl_map]

theorem size_paintAll (image : Image) (color : List UInt8) (pixels : List (Nat × Nat)) :
    (image.paintAll color pixels).width = image.width ∧
    (image.paintAll color pixels).height = image.height := by
  induction pixels generalizing image with
  | nil => exact ⟨rfl, rfl⟩
  | cons pixel pixels ih => exact ih (image.paint pixel.1 pixel.2 color)

theorem size_fillRect (image : Image) (top left width height : Int) (value : UInt8) :
    (image.fillRect top left width height value).width = image.width ∧
    (image.fillRect top left width height value).height = image.height := by
  rw [fillRect_eq]
  split
  · exact ⟨rfl, rfl⟩
  · exact size_paintAll ..

theorem get?_fillRect (image : Image) (top left width height : Int) (value : UInt8)
    (row column channel : Nat) :
    (image.fillRect top left width height value).get? row column channel =
      (image.get? row column channel).map fun old =>
        if (top ≤ row ∧ (row : Int) < top + height) ∧ left ≤ column ∧ (column : Int) < left + width
        then value else old := by
  by_cases valid : row < image.height ∧ column < image.width ∧ channel < image.channels
  · rw [fillRect_eq]
    split
    next empty =>
      rw [get?_inside valid, Array.getElem?_eq_none (by omega)]
      rfl
    next =>
      rw [get?_paintAll value]
      · simp only [mem_pixelsOf, valid.1, valid.2.1, true_and]
      · rintro ⟨row, column⟩ member
        exact ((mem_pixelsOf ..).mp member).2.1
  · rw [get?_outside valid, get?_outside]
    · rfl
    · rw [(size_fillRect ..).1, (size_fillRect ..).2, channels_fillRect]
      exact valid

end Image

namespace Mask

/-- The sides of the mask are words of 32 bits with a sign. -/
def InRange (mask : Mask) : Prop := mask.width < 2 ^ 31 ∧ mask.height < 2 ^ 31

theorem InRange.addressable {mask : Mask} (inRange : mask.InRange) : mask.image.Addressable :=
  Image.addressable_of_words mask.channels_eq (Nat.lt_trans inRange.1 (by decide)) (Nat.lt_trans inRange.2 (by decide))

theorem isForeground_iff (mask : Mask) (row column : Int) :
    mask.isForeground row column = true ↔
      (0 ≤ row ∧ row < mask.height ∧ 0 ≤ column ∧ column < mask.width) ∧
      mask.image.get? row.toNat column.toNat 0 = some foreground := by
  simp [isForeground, Image.contains, height, width, and_assoc]

theorem inside_of_isForeground {mask : Mask} {row column : Int}
    (shown : mask.isForeground row column = true) :
    0 ≤ row ∧ row < mask.height ∧ 0 ≤ column ∧ column < mask.width :=
  ((isForeground_iff ..).mp shown).1

@[simp] theorem width_erase (mask : Mask) (top left bottom right : Int) :
    (mask.erase top left bottom right).width = mask.width :=
  (Image.size_fillRect ..).1

@[simp] theorem height_erase (mask : Mask) (top left bottom right : Int) :
    (mask.erase top left bottom right).height = mask.height :=
  (Image.size_fillRect ..).2

/-- Clearing a box takes its pixels out of the foreground and adds none. -/
theorem isForeground_erase (mask : Mask) (bounds : Bounds) (row column : Int) :
    (mask.erase bounds.top bounds.left bounds.bottom bounds.right).isForeground row column = true ↔
      mask.isForeground row column = true ∧ ¬ bounds.Covers row column := by
  rw [isForeground_iff, isForeground_iff, width_erase, height_erase, erase, Image.get?_fillRect,
    and_assoc (b := mask.image.get? _ _ _ = _)]
  refine and_congr_right fun inside => ?_
  simp only [Option.map_eq_some_iff, Bounds.Covers]
  constructor
  · rintro ⟨old, held, shown⟩
    split at shown
    next => exact absurd shown (by decide)
    next outside => exact ⟨by rw [held, shown], by omega⟩
  · rintro ⟨held, outside⟩
    exact ⟨foreground, held, if_neg (by omega)⟩

def blank (width height : Nat) : Mask := ⟨Image.blank width height 1, rfl⟩

def shade (mask : Mask) (bounds : Bounds) : Mask where
  image := mask.image.fillRect bounds.top bounds.left (bounds.right - bounds.left + 1)
    (bounds.bottom - bounds.top + 1) foreground
  channels_eq := by rw [Image.channels_fillRect, mask.channels_eq]

theorem isForeground_blank (width height : Nat) (row column : Int) :
    (blank width height).isForeground row column = false := by
  rw [Bool.eq_false_iff, Ne, isForeground_iff]
  rintro ⟨-, shown⟩
  exact absurd (Image.eq_zero_of_get?_blank shown) (by decide)

@[simp] theorem width_shade (mask : Mask) (bounds : Bounds) :
    (mask.shade bounds).width = mask.width :=
  (Image.size_fillRect ..).1

@[simp] theorem height_shade (mask : Mask) (bounds : Bounds) :
    (mask.shade bounds).height = mask.height :=
  (Image.size_fillRect ..).2

theorem isForeground_shade (mask : Mask) (addressable : mask.image.Addressable) (bounds : Bounds) (row column : Int) :
    (mask.shade bounds).isForeground row column = true ↔ mask.isForeground row column = true ∨
      (0 ≤ row ∧ row < mask.height ∧ 0 ≤ column ∧ column < mask.width) ∧
        bounds.Covers row column := by
  rw [isForeground_iff, isForeground_iff, width_shade, height_shade, shade, Image.get?_fillRect, ← and_or_left]
  refine and_congr_right fun inside => ?_
  obtain ⟨old, held⟩ := Option.isSome_iff_exists.mp
    ((addressable.isSome_get?_iff row.toNat column.toNat 0).mpr
      (by simp only [height, width, mask.channels_eq] at *; omega))
  have reached : ((bounds.top ≤ row.toNat ∧ (row.toNat : Int) < bounds.top + (bounds.bottom - bounds.top + 1)) ∧
      bounds.left ≤ column.toNat ∧ (column.toNat : Int) < bounds.left + (bounds.right - bounds.left + 1)) ↔
      bounds.Covers row column := by
    simp only [Bounds.Covers]
    omega
  rw [held, Option.map_some, Option.some.injEq, Option.some.injEq]
  by_cases covered : bounds.Covers row column
  · rw [if_pos (reached.mpr covered)]
    exact iff_of_true rfl (.inr covered)
  · rw [if_neg (mt reached.mp covered), or_iff_left covered]

end Mask
end TouchTracking.Raster
