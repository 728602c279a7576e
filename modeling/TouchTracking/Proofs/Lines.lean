import Mathlib.Data.List.Basic
import TouchTracking.Feed.Follower
import TouchTracking.Proofs.Readback

/-! The line that is written for a payload of touches: a list in brackets, with a record for each touch. No number
on it holds a comma or a brace, so that the line can be cut back into its numbers. As numbers are read back from their
texts, it tells payloads apart. -/
namespace TouchTracking

namespace Text

/-- A text without commas and closing braces, which can be cut out of a list. -/
def Solid (text : String) : Prop := ∀ c ∈ text.toList, c ≠ ',' ∧ c ≠ '\x7d'

instance (text : String) : Decidable (Solid text) := List.decidableBAll (fun c => c ≠ ',' ∧ c ≠ '\x7d') text.toList

variable {text other : String}

theorem Solid.append (solid : Solid text) (solid' : Solid other) : Solid (text ++ other) := by
  intro c member
  rw [String.toList_append] at member
  exact (List.mem_append.mp member).elim (solid c) (solid' c)

theorem Solid.ofList {characters : List Char} (solid : Solid text) (among : characters ⊆ text.toList) :
    Solid (String.ofList characters) := by
  intro c member
  rw [String.toList_ofList] at member
  exact solid c (among member)

theorem solid_repr (n : Nat) : Solid n.repr := by
  intro c member
  rw [Nat.toList_repr] at member
  have digit := Decimal.isDigit_of_mem member
  constructor <;> rintro rfl <;> cases digit

end Text

namespace Decimal

open Text (Solid)

theorem solid_zeros (count : Nat) : Solid (zeros count) := by
  intro c member
  rw [zeros, String.toList_ofList] at member
  cases List.eq_of_mem_replicate member
  decide

theorem solid_positionalText {wholeMark : String} (mark : Solid wholeMark) (decimal : Scientific) :
    Solid (positionalText wholeMark decimal) := by
  have digits : Solid (digitText decimal.digits) := Text.solid_repr decimal.digits
  unfold positionalText
  simp only
  split
  · exact (digits.append (solid_zeros _)).append mark
  · split
    · exact (Solid.append (by decide) (solid_zeros _)).append digits
    · exact ((digits.ofList (List.take_subset ..)).append (by decide)).append (digits.ofList (List.drop_subset ..))

theorem solid_exponentText (decimal : Scientific) : Solid (exponentText decimal) := by
  have digits : Solid (digitText decimal.digits) := Text.solid_repr decimal.digits
  unfold exponentText
  simp only
  refine Solid.append (Solid.append (Solid.append ?_ (by decide)) ?_) (Text.solid_repr _)
  · split
    next first second rest same =>
      have kept : ∀ c ∈ first :: second :: rest, c ≠ ',' ∧ c ≠ '\x7d' := same ▸ digits
      intro c member
      rw [toString, instToStringString, String.toList_ofList] at member
      rcases List.mem_cons.mp member with rfl | member
      · exact kept _ List.mem_cons_self
      · rcases List.mem_cons.mp member with rfl | member
        · decide
        · exact kept c (List.mem_cons_of_mem _ member)
    next => exact digits
  · split <;> decide

theorem Layout.solid_write {layout : Layout} (mark : Solid layout.wholeMark) (nan : Solid layout.nanText)
    (infinity : ∀ negative, Solid (layout.infinityText negative)) (format : Binary.Format) (word : Nat) :
    Solid (layout.write format word) := by
  unfold Layout.write
  split
  next => exact nan
  next => exact infinity _
  next negative significand exponent _ =>
    have sign : Solid (if negative then "-" else "") := by cases negative <;> decide
    generalize shortest format layout.tie (word % format.signBit) significand exponent = decimal
    simp only
    split
    · exact (sign.append (by decide)).append mark
    · refine sign.append ?_
      unfold Layout.magnitudeText
      simp only
      split
      · exact solid_positionalText mark _
      · split
        · exact solid_positionalText mark _
        · exact solid_exponentText _

end Decimal

/-- Two lists that go on behind their first mark are cut there. -/
theorem Text.cut {left right after behind : List Char} {mark : Char} (free : mark ∉ left) (free' : mark ∉ right)
    (same : left ++ mark :: after = right ++ mark :: behind) : left = right ∧ after = behind := by
  induction left generalizing right with
  | nil =>
    cases right with
    | nil => exact ⟨rfl, (List.cons.inj same).2⟩
    | cons c right => exact absurd ((List.cons.inj same).1 ▸ List.mem_cons_self) free'
  | cons c left ih =>
    cases right with
    | nil => exact absurd ((List.cons.inj same).1 ▸ List.mem_cons_self) free
    | cons d right =>
      obtain ⟨rfl, rest⟩ := List.cons.inj same
      obtain ⟨rfl, rfl⟩ := ih (List.not_mem_of_not_mem_cons free) (List.not_mem_of_not_mem_cons free') rest
      exact ⟨rfl, rfl⟩

theorem Text.mem_intercalate {separator : List Char} {parts : List (List Char)} {c : Char}
    (member : c ∈ separator.intercalate parts) : c ∈ separator ∨ ∃ part ∈ parts, c ∈ part := by
  match parts with
  | [] => cases member
  | [part] => exact .inr ⟨part, List.mem_singleton_self _, by simpa using member⟩
  | part :: next :: parts =>
    rw [List.intercalate_cons_cons, List.append_assoc] at member
    rcases List.mem_append.mp member with first | member
    · exact .inr ⟨part, List.mem_cons_self, first⟩
    · rcases List.mem_append.mp member with between | later
      · exact .inl between
      · exact (mem_intercalate later).imp id fun ⟨found, among, member⟩ => ⟨found, List.mem_cons_of_mem _ among, member⟩

theorem Decimal.repr_injective {m n : Nat} (same : m.repr = n.repr) : m = n := by
  have digits := congrArg (digitsValue ·.toList) same
  simpa only [Nat.toList_repr, digitsValue_toDigits] using digits

namespace Touch

open Text (Solid cut)
open Json (compact compactFields quoted singleLayout)

def shareText (share : Binary.Single) : String := singleLayout.writeSingle share

def fieldTexts (touch : Touch) : List String :=
  ["\"type\":\"touch\"", "\"id\":" ++ touch.id.repr, "\"x\":" ++ shareText touch.x, "\"y\":" ++ shareText touch.y,
    "\"w\":" ++ touch.width.repr, "\"h\":" ++ touch.height.repr]

def record (touch : Touch) : String := "\x7b" ++ ",".intercalate touch.fieldTexts ++ "\x7d"

theorem compact_toJson (touch : Touch) : touch.toJson.compact = touch.record := by
  have names : quoted "type" ++ ":" ++ quoted "touch" = "\"type\":\"touch\"" ∧ quoted "id" ++ ":" = "\"id\":" ∧
      quoted "x" ++ ":" = "\"x\":" ∧ quoted "y" ++ ":" = "\"y\":" ∧ quoted "w" ++ ":" = "\"w\":" ∧
      quoted "h" ++ ":" = "\"h\":" := by decide +kernel
  obtain ⟨type, id, x, y, w, h⟩ := names
  rw [record, fieldTexts, ← type, ← id, ← x, ← y, ← w, ← h]
  rfl

theorem line_eq (touches : List Touch) : line touches = "[" ++ ",".intercalate (touches.map record) ++ "]" := by
  have items (touches : List Touch) : Json.compactItems (touches.map toJson) = touches.map record := by
    induction touches with
    | nil => rfl
    | cons touch touches ih => rw [List.map_cons, Json.compactItems, ih, compact_toJson, List.map_cons]
  rw [line, compact, items]

theorem solid_shareText (share : Binary.Single) : Solid (shareText share) :=
  have infinity : Solid "null" := by decide
  Decimal.Layout.solid_write (by decide) infinity (fun _ => infinity) _ _

theorem solid_of_mem {touch : Touch} {text : String} (member : text ∈ touch.fieldTexts) : Solid text := by
  simp only [fieldTexts, List.mem_cons, List.not_mem_nil, or_false] at member
  rcases member with rfl | rfl | rfl | rfl | rfl | rfl
  · decide
  · exact Solid.append (by decide) (Text.solid_repr _)
  · exact Solid.append (by decide) (solid_shareText _)
  · exact Solid.append (by decide) (solid_shareText _)
  · exact Solid.append (by decide) (Text.solid_repr _)
  · exact Solid.append (by decide) (Text.solid_repr _)

/-- Two touches are written alike. -/
structure Alike (touch other : Touch) : Prop where
  id : touch.id = other.id
  x : shareText touch.x = shareText other.x
  y : shareText touch.y = shareText other.y
  width : touch.width = other.width
  height : touch.height = other.height

variable {touch other : Touch}

theorem alike_of_fieldTexts (same : touch.fieldTexts = other.fieldTexts) : Alike touch other := by
  simp only [fieldTexts, List.cons.injEq, String.append_right_inj, true_and, and_true] at same
  obtain ⟨id, x, y, width, height⟩ := same
  exact ⟨Decimal.repr_injective id, x, y, Decimal.repr_injective width, Decimal.repr_injective height⟩

/-- The position is a pair of numbers, neither of them infinite or a NaN. -/
structure Finite (touch : Touch) : Prop where
  x : Binary.Format.single.Finite touch.x.word.toNat
  y : Binary.Format.single.Finite touch.y.word.toNat

theorem shareText_injective {share other : Binary.Single} (finite : Binary.Format.single.Finite share.word.toNat)
    (same : shareText share = shareText other) : share = other :=
  Decimal.Layout.writeSingle_injective rfl rfl (fun _ => rfl) finite same

theorem Alike.eq (finite : touch.Finite) (alike : Alike touch other) : touch = other := by
  obtain ⟨id, x, y, width, height⟩ := alike
  have x := shareText_injective finite.x x
  have y := shareText_injective finite.y y
  cases touch
  cases other
  simp_all

/-- The fields of a touch, one after the other, as they stand between the braces. -/
def inner (touch : Touch) : List Char := (",".intercalate touch.fieldTexts).toList

theorem toList_record (touch : Touch) : touch.record.toList = '\x7b' :: touch.inner ++ ['\x7d'] := by
  simp [record, inner]

theorem inner_eq (touch : Touch) : touch.inner = [','].intercalate (touch.fieldTexts.map String.toList) :=
  String.toList_intercalate

theorem brace_not_mem_inner (touch : Touch) : '\x7d' ∉ touch.inner := by
  rw [inner_eq]
  intro member
  rcases Text.mem_intercalate member with comma | ⟨characters, among, member⟩
  · cases List.mem_singleton.mp comma
  · obtain ⟨text, field, rfl⟩ := List.mem_map.mp among
    exact (solid_of_mem field _ member).2 rfl

theorem alike_of_inner (same : touch.inner = other.inner) : Alike touch other := by
  have parts (touch : Touch) : touch.inner.splitOn ',' = touch.fieldTexts.map String.toList := by
    rw [inner_eq]
    refine List.splitOn_intercalate _ (fun characters among comma => ?_) nofun
    obtain ⟨text, field, rfl⟩ := List.mem_map.mp among
    exact (solid_of_mem field _ comma).1 rfl
  have cut := congrArg (List.splitOn ',') same
  rw [parts, parts] at cut
  exact alike_of_fieldTexts (List.map_injective_iff.mpr (fun _ _ => String.toList_inj.mp) cut)

/-- Records, each behind a comma. -/
def rows (touches : List Touch) : List Char := touches.flatMap fun touch => ',' :: touch.record.toList

/-- Rows are cut apart at the braces. -/
theorem alike_of_rows {touches others : List Touch} (same : rows touches ++ [']'] = rows others ++ [']']) :
    List.Forall₂ Alike touches others := by
  have row (touch : Touch) (touches : List Touch) :
      rows (touch :: touches) ++ [']'] = ',' :: '\x7b' :: (touch.inner ++ '\x7d' :: (rows touches ++ [']'])) := by
    simp [rows, toList_record]
  induction touches generalizing others with
  | nil =>
    cases others with
    | nil => exact .nil
    | cons other others =>
      rw [row] at same
      cases same
  | cons touch touches ih =>
    cases others with
    | nil =>
      rw [row] at same
      cases same
    | cons other others =>
      rw [row, row] at same
      simp only [List.cons.injEq, true_and] at same
      obtain ⟨first, rest⟩ := cut (brace_not_mem_inner touch) (brace_not_mem_inner other) same
      exact .cons (alike_of_inner first) (ih rest)

/-- What stands between the brackets of a line. -/
def between (touches : List Touch) : List Char := [','].intercalate (touches.map (·.record.toList))

theorem toList_line (touches : List Touch) : (line touches).toList = '[' :: (between touches ++ [']']) := by
  simp [line_eq, between, String.toList_intercalate, Function.comp_def]

theorem between_cons (touch : Touch) (touches : List Touch) :
    between (touch :: touches) = touch.record.toList ++ rows touches := by
  induction touches generalizing touch with
  | nil => simp [between, rows]
  | cons next touches ih =>
    have step : between (touch :: next :: touches) = touch.record.toList ++ ',' :: between (next :: touches) := by
      simp [between, List.intercalate_cons_cons]
    rw [step, ih]
    rfl

/-- A line tells the touches written on it, up to how their positions are written. -/
theorem alike_of_line {touches others : List Touch} (same : line touches = line others) :
    List.Forall₂ Alike touches others := by
  have same := congrArg String.toList same
  rw [toList_line, toList_line, List.cons.injEq] at same
  have same := same.2
  cases touches with
  | nil =>
    cases others with
    | nil => exact .nil
    | cons other others =>
      rw [between_cons, toList_record] at same
      cases same
  | cons touch touches =>
    cases others with
    | nil =>
      rw [between_cons, toList_record] at same
      cases same
    | cons other others =>
      rw [between_cons, between_cons] at same
      exact alike_of_rows (congrArg (',' :: ·) same)

/-- A line tells the touches written on it, if their positions are numbers. -/
theorem line_injective {touches others : List Touch} (finite : ∀ touch ∈ touches, touch.Finite)
    (same : line touches = line others) : touches = others := by
  have alike := alike_of_line same
  clear same
  induction alike with
  | nil => rfl
  | cons first _ ih =>
    rw [first.eq (finite _ List.mem_cons_self), ih fun touch later => finite touch (List.mem_cons_of_mem _ later)]

end Touch

end TouchTracking
