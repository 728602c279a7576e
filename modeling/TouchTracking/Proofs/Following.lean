import TouchTracking.Proofs.Assignment
import TouchTracking.Proofs.Detection
import TouchTracking.Proofs.Drift
import TouchTracking.Proofs.Runs
import TouchTracking.Squares.Source

/-! A single square, followed from frame to frame. Its frame is a drawing in which the detector finds just
that square, and as the square moves by less than half of its side, the box found overlaps the box that
is carried over. So it keeps the identity of its first frame for as long as it is watched. -/
namespace TouchTracking

open TouchTracking.Random (Draws)
open Raster (Image Mask)

def SquareSettings.InRange (settings : SquareSettings) : Prop := settings.width < 2 ^ 31 ∧ settings.height < 2 ^ 31

namespace Square

def bounds (size : Nat) (square : Square) : Bounds :=
  ⟨square.top, square.left, square.top + size - 1, square.left + size - 1⟩

def box (size : Nat) (square : Square) : Blob := Blob.ofBounds (square.bounds size)

theorem sides_box {size : Nat} (small : size < 2 ^ 31) (square : Square) :
    (square.box size).width = size ∧ (square.box size).height = size := by
  have side (start : Int) : start + size - 1 - start + 1 = size := by omega
  simp only [box, bounds, Blob.ofBounds, side, signed32_of_lt small, and_self]

theorem bounds_inRange {settings : SquareSettings} (valid : settings.validate = .ok ())
    (inRange : settings.InRange) {square : Square} (steady : square.Steady settings) :
    (square.bounds settings.size).InRange := by
  obtain ⟨-, positive, -, -⟩ := SquareSettings.validate_ok valid
  obtain ⟨top, left, -, -⟩ := steady
  obtain ⟨narrow, low⟩ := inRange
  constructor <;> simp only [bounds] <;> omega

/-- After a move by less than half of the side, the centre is still in the place left behind. -/
theorem overlaps_of_near {settings : SquareSettings} (valid : settings.validate = .ok ())
    (inRange : settings.InRange) (short : 2 * settings.speed < settings.size) {square next : Square}
    (steady : square.Steady settings) (steady' : next.Steady settings) (near : square.Near settings.speed next) :
    (square.box settings.size).overlaps (next.box settings.size) = true := by
  have here := bounds_inRange valid inRange steady
  have there := bounds_inRange valid inRange steady'
  obtain ⟨rows, columns⟩ := near
  simp only [Blob.overlaps, Bool.or_eq_true, Blob.contains_iff]
  left
  rw [box, box, here.bounds_ofBounds, there.ofBounds_eq]
  simp only [bounds, Bounds.Covers]
  omega

def shown (settings : SquareSettings) (square : Square) : Mask :=
  Drawing.picture settings.width settings.height [square.bounds settings.size]

theorem image_shown (settings : SquareSettings) (square : Square) :
    (shown settings square).image = render settings [square] := by
  have side (start : Int) : start + settings.size - 1 - start + 1 = settings.size := by omega
  simp only [shown, Drawing.picture, List.foldr_cons, List.foldr_nil, Mask.shade, Mask.blank, bounds,
    side, render, List.foldl_cons, List.foldl_nil]

theorem drawing_shown {settings : SquareSettings} (valid : settings.validate = .ok ())
    (inRange : settings.InRange) {square : Square} (steady : square.Steady settings) :
    Drawing (shown settings square) [square.bounds settings.size] := by
  obtain ⟨-, positive, -, -⟩ := SquareSettings.validate_ok valid
  obtain ⟨top, left, -, -⟩ := steady
  refine Drawing.of_picture inRange.1 inRange.2 (fun other member => ?_) (fun other member => ?_)
    (List.pairwise_singleton ..)
  · rw [List.mem_singleton.mp member]
    simp only [Bounds.Proper, bounds]
    omega
  · rw [List.mem_singleton.mp member]
    simp only [bounds]
    omega

end Square

structure Tracker.Suits (size : Nat) (tracker : Tracker) : Prop where
  least : tracker.detector.minSize ≤ size
  most : size ≤ tracker.detector.maxSize
  small : tracker.detector.maxSize < 2 ^ 31
  published : size ≤ tracker.params.maxSize
  small' : tracker.params.maxSize < 2 ^ 31

theorem Tracker.exists_suiting {params : TrackerParams} {size : Nat}
    (least : 1 ≤ params.minSize ∧ params.minSize ≤ size)
    (most : size ≤ params.maxSize ∧ params.maxSize < 2 ^ 31) :
    ∃ tracker, ofParams params = .ok tracker ∧ tracker.Suits size := by
  obtain ⟨positive, least⟩ := least
  obtain ⟨most, small⟩ := most
  have order := Nat.le_trans least most
  refine ⟨ofDetector params ⟨params.minSize, params.maxSize, positive, order⟩, ?_,
    ⟨least, most, small, most, small⟩⟩
  rw [ofParams, TrackerParams.detector, Detector.ofSizes, dif_neg (by omega), dif_neg (by omega)]
  rfl

namespace Tracker

variable {tracker : Tracker} {settings : SquareSettings}

theorem process_shown (valid : settings.validate = .ok ()) (inRange : settings.InRange)
    (suits : tracker.Suits settings.size) {square : Square} (steady : square.Steady settings) :
    tracker.process (Square.render settings [square]) =
      .ok (tracker.update [square.box settings.size] settings.width settings.height) := by
  obtain ⟨⟨wide, high⟩, -, -, -⟩ := SquareSettings.validate_ok valid
  have drawing := Square.drawing_shown valid inRange steady
  have wanted : tracker.detector.Wants (square.bounds settings.size) := by
    obtain ⟨least, most, -, -, -⟩ := suits
    simp only [Detector.Wants, Square.bounds]
    omega
  obtain ⟨width, height⟩ :=
    Drawing.size_picture settings.width settings.height [square.bounds settings.size]
  have found := drawing.detect_alone (Drawing.picture_inRange inRange.1 inRange.2 _) wanted suits.small
  have masked : Mask.ofImage (Square.shown settings square).image = .ok (Square.shown settings square) :=
    dif_pos (Square.shown settings square).channels_eq
  change (Square.shown settings square).image.width = _ at width
  change (Square.shown settings square).image.height = _ at height
  rw [← Square.image_shown, process, masked, width, height, if_neg (by omega)]
  simp only [found, Square.box]

/-- With nothing carried over, a single box gets a new identity. -/
theorem advance_first (untracked : tracker.tracked = []) (blob : Blob) :
    (tracker.advance [blob]).tracked = [TrackedBlob.ofBlob blob tracker.nextId] := by
  rw [(tracked_advance_described tracker [blob]).1, untracked]
  simp [Blob.keepApart, claims, unclaimed, named, TrackedBlob.ofBlob]

/-- A single box that overlaps the one that is carried over takes it up, and nothing else is left. -/
theorem advance_again {prior : TrackedBlob} (tracked : tracker.tracked = [prior]) {blob : Blob}
    (meets : prior.blob.overlaps blob = true) :
    (tracker.advance [blob]).tracked = [inherit tracker.params.minAge prior blob] := by
  rw [(tracked_advance_described tracker [blob]).1, tracked]
  simp [Blob.keepApart, claims, unclaimed, named, meets, inherit]

/-- A single tracked box of wanted size is published under its identity and with its sides. -/
theorem touches_alone (valid : settings.validate = .ok ()) (suits : tracker.Suits settings.size)
    {entry : TrackedBlob} {square : Square} (tracked : tracker.tracked = [entry])
    (same : entry.blob = square.box settings.size) :
    ∃ x y, tracker.touches settings.width settings.height =
      [⟨entry.id, x, y, settings.size, settings.size⟩] := by
  obtain ⟨⟨wide, high⟩, positive, -, -⟩ := SquareSettings.validate_ok valid
  have sides := square.sides_box (Nat.lt_of_le_of_lt suits.most suits.small)
  have shows : isEmitted tracker.params entry = true := by
    have published := suits.published
    rw [isEmitted, signed32_of_lt suits.small', same]
    simp only [Blob.fits, sides, Bool.and_eq_true, decide_eq_true_eq]
    omega
  refine ⟨Touch.share entry.blob.centerColumn settings.width,
    Touch.share entry.blob.centerRow settings.height, ?_⟩
  rw [touches, if_neg (by omega), emitted, tracked, List.filter_cons_of_pos shows]
  simp [touchOf, same, sides]

/-- If the box of a frame with a single square is all that is tracked afterwards, the frame is processed
and the box published. -/
theorem process_alone (valid : settings.validate = .ok ()) (inRange : settings.InRange)
    (suits : tracker.Suits settings.size) {square : Square} (steady : square.Steady settings) {entry : TrackedBlob}
    (tracked : (tracker.advance [square.box settings.size]).tracked = [entry])
    (same : entry.blob = square.box settings.size) :
    ∃ touches later, tracker.process (Square.render settings [square]) = .ok (touches, later) ∧
      later.Suits settings.size ∧ later.tracked = [entry] ∧
      ∃ x y, touches = [⟨entry.id, x, y, settings.size, settings.size⟩] := by
  have later : (tracker.advance [square.box settings.size]).Suits settings.size :=
    ⟨suits.least, suits.most, suits.small, suits.published, suits.small'⟩
  exact ⟨_, _, process_shown valid inRange suits steady, later, tracked,
    touches_alone valid later tracked same⟩

end Tracker

/-- The sources that have been opened with some settings: by properties that hold them and name a seed, or
on any words at all. -/
inductive SquareSource.Opened : SquareSettings → SquareSource → Prop
  | byProperties {bag : PropertyBag} {source : SquareSource} :
      openWith bag = .ok source → Opened (.ofProperties bag) source
  | onWords {settings : SquareSettings} (draws : Draws) :
      settings.validate = .ok () → Opened settings (begin settings draws)

theorem SquareSource.Opened.begun {settings : SquareSettings} {source : SquareSource}
    (opened : Opened settings source) :
    settings.validate = .ok () ∧ ∃ draws, source = begin settings draws := by
  cases opened with
  | @byProperties bag _ granted =>
    simp only [openWith] at granted
    split at granted
    next => cases granted
    next valid => cases granted; exact ⟨valid, _, rfl⟩
  | onWords draws valid => exact ⟨valid, draws, rfl⟩

theorem SquareSource.capture_first (settings : SquareSettings) (squares : List Square) (draws : Draws) :
    SquareSource.capture ⟨settings, some draws, squares, 0⟩ =
      .ok (Square.render settings squares, ⟨settings, some draws, squares, 1⟩) := rfl

theorem SquareSource.capture_next {settings : SquareSettings} {squares next : List Square}
    {draws rest : Draws} (moved : Square.stepAll settings squares draws = (next, rest)) (captured : Nat) :
    SquareSource.capture ⟨settings, some draws, squares, captured + 1⟩ =
      .ok (Square.render settings next, ⟨settings, some rest, next, captured + 2⟩) := by
  have moves : SquareSource.advance ⟨settings, some draws, squares, captured + 1⟩ draws =
      ⟨settings, some rest, next, captured + 2⟩ := by
    simp only [advance, if_neg (Nat.succ_ne_zero captured), moved]
  simp only [capture, moves]

/-- Captures frames one after the other and processes each, and lists what is published of each and the
tracker after it; nothing, if a frame cannot be captured or not be processed. -/
def watch (tracker : Tracker) (source : SquareSource) :
    (frames : Nat) → Option (List (List Touch × Tracker))
  | 0 => some []
  | frames + 1 => do
    let (image, source) ← source.capture.toOption
    let (touches, tracker) ← (tracker.process image).toOption
    let rest ← watch tracker source frames
    some ((touches, tracker) :: rest)

/-- The tracker carries the box of the square as it was shown last, under the first identity; before the
first frame it carries nothing and has given no identity. -/
inductive Following (settings : SquareSettings) : SquareSource → Tracker → Prop
  | unseen {tracker : Tracker} {square : Square} (draws : Draws) (steady : square.Steady settings)
      (untracked : tracker.tracked = []) (first : tracker.nextId = 1) :
      Following settings ⟨settings, some draws, [square], 0⟩ tracker
  | seen {tracker : Tracker} {square : Square} (draws : Draws) (captured : Nat) (entry : TrackedBlob)
      (steady : square.Steady settings) (tracked : tracker.tracked = [entry])
      (same : entry.blob = square.box settings.size) (first : entry.id = 1) :
      Following settings ⟨settings, some draws, [square], captured + 1⟩ tracker

namespace Following

variable {settings : SquareSettings} {source : SquareSource} {tracker : Tracker}

/-- A source of one square that has just been opened, beside a tracker that has just been made. -/
theorem start (valid : settings.validate = .ok ()) (one : settings.blobs = 1) (draws : Draws)
    (untracked : tracker.tracked = []) (first : tracker.nextId = 1) :
    Following settings (SquareSource.begin settings draws) tracker := by
  rw [SquareSource.begin, one, Square.drawMany_one]
  exact .unseen _ (Square.steady_draw valid draws) untracked first

/-- Another frame with another tracked box, and the touch that is published of it. -/
theorem step (following : Following settings source tracker) (valid : settings.validate = .ok ())
    (inRange : settings.InRange) (slow : 2 * settings.speed < settings.size)
    (suits : tracker.Suits settings.size) :
    ∃ image next touches later, source.capture = .ok (image, next) ∧
      tracker.process image = .ok (touches, later) ∧ Following settings next later ∧
      later.Suits settings.size ∧ (∃ entry, later.tracked = [entry]) ∧
      ∃ x y, touches = [⟨1, x, y, settings.size, settings.size⟩] := by
  cases following with
  | @unseen _ square draws steady untracked first =>
    have tracked := tracker.advance_first untracked (square.box settings.size)
    obtain ⟨touches, later, processed, suits', tracked', published⟩ :=
      Tracker.process_alone valid inRange suits steady tracked rfl
    rw [TrackedBlob.ofBlob, first] at tracked' published
    exact ⟨_, _, touches, later, SquareSource.capture_first .., processed,
      .seen draws 0 _ steady tracked' rfl rfl, suits', ⟨_, tracked'⟩, published⟩
  | @seen _ square draws captured entry steady tracked same first =>
    obtain ⟨steady', near⟩ := Square.steady_step steady draws
    generalize moved : square.step settings draws = result at steady' near
    have all : Square.stepAll settings [square] draws = ([result.1], result.2) := by
      rw [Square.stepAll_singleton, moved]
    have meets : entry.blob.overlaps (result.1.box settings.size) = true := by
      rw [same]
      exact Square.overlaps_of_near valid inRange slow steady steady' near
    have tracked' := tracker.advance_again tracked meets
    obtain ⟨touches, later, processed, suits', tracked', published⟩ :=
      Tracker.process_alone valid inRange suits steady' tracked' rfl
    rw [Tracker.inherit, first] at tracked' published
    exact ⟨_, _, touches, later, SquareSource.capture_next all .., processed,
      .seen result.2 (captured + 1) _ steady' tracked' rfl rfl, suits', ⟨_, tracked'⟩, published⟩

theorem watched (following : Following settings source tracker) (valid : settings.validate = .ok ())
    (inRange : settings.InRange) (slow : 2 * settings.speed < settings.size)
    (suits : tracker.Suits settings.size) (frames : Nat) :
    ∃ log, watch tracker source frames = some log ∧ log.length = frames ∧
      ∀ entry ∈ log, (∃ x y, entry.1 = [⟨1, x, y, settings.size, settings.size⟩]) ∧
        ∃ blob, entry.2.tracked = [blob] := by
  induction frames generalizing source tracker with
  | zero => exact ⟨[], rfl, rfl, nofun⟩
  | succ frames ih =>
    obtain ⟨image, next, touches, later, captured, processed, following', suits', tracked, published⟩ :=
      following.step valid inRange slow suits
    obtain ⟨log, rest, length, all⟩ := ih following' suits'
    refine ⟨(touches, later) :: log, ?_, by rw [List.length_cons, length], ?_⟩
    · simp [watch, captured, processed, rest, Except.toOption]
    · intro entry member
      rcases List.mem_cons.mp member with rfl | member
      · exact ⟨published, tracked⟩
      · exact all entry member

end Following

/-- However the source of a single square was opened, a fresh tracker that seeks squares of its side
publishes in every frame exactly this one, under the first identity and with its sides, if the square
moves in a frame by less than half of its side; and there is always one box that is tracked. -/
theorem identity_stable {settings : SquareSettings} {source : SquareSource}
    (opened : SquareSource.Opened settings source) (inRange : settings.InRange) (one : settings.blobs = 1)
    (slow : 2 * settings.speed < settings.size) {params : TrackerParams}
    (least : 1 ≤ params.minSize ∧ params.minSize ≤ settings.size)
    (most : settings.size ≤ params.maxSize ∧ params.maxSize < 2 ^ 31) (frames : Nat) :
    ∃ tracker log, Tracker.ofParams params = .ok tracker ∧ watch tracker source frames = some log ∧
      log.length = frames ∧ ∀ entry ∈ log,
        (∃ x y, entry.1 = [⟨1, x, y, settings.size, settings.size⟩]) ∧
        ∃ blob, entry.2.tracked = [blob] := by
  obtain ⟨valid, draws, rfl⟩ := opened.begun
  obtain ⟨tracker, made, suits⟩ := Tracker.exists_suiting least most
  obtain ⟨untracked, first⟩ := (Tracker.Fresh.made made).blank
  have following := Following.start valid one draws untracked first
  obtain ⟨log, watched⟩ := following.watched valid inRange slow suits frames
  exact ⟨tracker, log, made, watched⟩

/-- A small frame in which the square soon meets a border, and the greatest speed for its side. -/
def pacing : SquareSettings := ⟨24, 20, 1, 9, 4, 3⟩

theorem identity_stable_pacing :
    SquareSource.Opened pacing (SquareSource.begin pacing (Draws.ofSeed 3)) ∧ pacing.InRange ∧ pacing.blobs = 1 ∧
    2 * pacing.speed < pacing.size ∧ (1 ≤ TrackerParams.standard.minSize ∧
      TrackerParams.standard.minSize ≤ pacing.size) ∧
    (pacing.size ≤ TrackerParams.standard.maxSize ∧ TrackerParams.standard.maxSize < 2 ^ 31) ∧
    ∃ tracker log, Tracker.ofParams TrackerParams.standard = .ok tracker ∧
      watch tracker (SquareSource.begin pacing (Draws.ofSeed 3)) 200 = some log ∧
      log.length = 200 ∧ ∀ entry ∈ log,
        (∃ x y, entry.1 = [⟨1, x, y, pacing.size, pacing.size⟩]) ∧
        ∃ blob, entry.2.tracked = [blob] :=
  have opened := SquareSource.Opened.onWords (Draws.ofSeed 3) (show pacing.validate = .ok () by decide)
  have inRange : pacing.InRange := ⟨by decide, by decide⟩
  ⟨opened, inRange, by decide, by decide, by decide, by decide,
    identity_stable opened inRange (by decide) (by decide) (by decide) (by decide) 200⟩

end TouchTracking
