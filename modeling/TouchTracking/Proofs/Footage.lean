import TouchTracking.Proofs.Following

/-! What a source of squares films. A frame is a mask of its size, white where a square is and black elsewhere. Between
two frames each square drifts in a way that chance decides, and whatever it decides, the squares stay in the frame and
keep to the speed, and so do those of every source that was opened. -/
namespace TouchTracking

open TouchTracking.Random (Draws)
open Raster (Image)

def SquareSettings.Words (settings : SquareSettings) : Prop := settings.width < 2 ^ 32 ∧ settings.height < 2 ^ 32

instance (settings : SquareSettings) : Decidable settings.Words := inferInstanceAs (Decidable (_ ∧ _))

structure Raster.Image.Frames (settings : SquareSettings) (image : Image) : Prop where
  width : image.width = settings.width
  height : image.height = settings.height
  channels : image.channels = 1

theorem Raster.Image.Frames.fillRect {settings : SquareSettings} {image : Image} (framed : image.Frames settings)
    (top left width height : Int) (value : UInt8) : (image.fillRect top left width height value).Frames settings := by
  obtain ⟨sameWidth, sameHeight⟩ := image.size_fillRect top left width height value
  refine ⟨sameWidth.trans framed.width, sameHeight.trans framed.height, ?_⟩
  rw [Image.channels_fillRect]
  exact framed.channels

/-- A frame whose pixels are white where a square is, and black elsewhere. -/
structure Raster.Image.Shows (settings : SquareSettings) (squares : List Square) (image : Image) : Prop
    extends image.Frames settings where
  pixels : ∀ row column : Nat, row < settings.height → column < settings.width →
    image.get? row column 0 =
      some (if ∃ square ∈ squares, (square.bounds settings.size).Covers row column then Raster.foreground else 0)

namespace Square

theorem frames_render (settings : SquareSettings) (squares : List Square) :
    (render settings squares).Frames settings := by
  have blank : (Image.blank settings.width settings.height 1).Frames settings := ⟨rfl, rfl, rfl⟩
  exact List.foldlRecOn squares _ blank fun _ framed _ _ => framed.fillRect ..

theorem get?_foldl_fillRect (settings : SquareSettings) (image : Image) (row column : Nat) (squares : List Square) :
    (squares.foldl (fun image square => image.fillRect square.top square.left settings.size settings.size
        Raster.foreground) image).get? row column 0 =
      (image.get? row column 0).map fun old =>
        if ∃ square ∈ squares, (square.bounds settings.size).Covers row column then Raster.foreground else old := by
  induction squares generalizing image with
  | nil => simp
  | cons square squares ih =>
    have aimed : ((square.top ≤ row ∧ (row : Int) < square.top + settings.size) ∧
        square.left ≤ column ∧ (column : Int) < square.left + settings.size) ↔
          (square.bounds settings.size).Covers row column := by
      simp only [Bounds.Covers, bounds]
      omega
    rw [List.foldl_cons, ih, Image.get?_fillRect, Option.map_map]
    congr 1
    funext old
    simp only [Function.comp_apply, aimed, List.exists_mem_cons_iff]
    by_cases later : ∃ other ∈ squares, (other.bounds settings.size).Covers row column
    · rw [if_pos later, if_pos (Or.inr later)]
    · simp only [later, or_false, if_false]

theorem shows_render {settings : SquareSettings} (words : settings.Words) (squares : List Square) :
    (render settings squares).Shows settings squares where
  toFrames := frames_render settings squares
  pixels row column row_lt column_lt := by
    have addressable : (Image.blank settings.width settings.height 1).Addressable :=
      Image.addressable_of_words rfl words.1 words.2
    rw [render, get?_foldl_fillRect, Image.get?_blank addressable row_lt column_lt Nat.one_pos]
    rfl

variable {settings : SquareSettings}

theorem steady_drawMany (valid : settings.validate = .ok ()) (count : Nat) (draws : Draws) :
    (drawMany settings count draws).1.length = count ∧
      ∀ square ∈ (drawMany settings count draws).1, square.Steady settings := by
  induction count generalizing draws with
  | zero => exact ⟨rfl, nofun⟩
  | succ count ih =>
    have first := steady_draw valid draws
    rw [drawMany]
    generalize draw settings draws = drawn at first ⊢
    obtain ⟨length, steady⟩ := ih drawn.2
    exact ⟨congrArg (· + 1) length, List.forall_mem_cons.mpr ⟨first, steady⟩⟩

theorem drifts_stepAll (settings : SquareSettings) (squares : List Square) (draws : Draws) :
    List.Forall₂ (Drifts settings) squares (stepAll settings squares draws).1 := by
  induction squares generalizing draws with
  | nil => exact .nil
  | cons square squares ih => exact .cons (drifts_step ..) (ih _)

theorem steady_of_drifts {squares next : List Square} (drifts : List.Forall₂ (Drifts settings) squares next)
    (steady : ∀ square ∈ squares, square.Steady settings) :
    (∀ square ∈ next, square.Steady settings) ∧ List.Forall₂ (Near settings.speed) squares next := by
  induction drifts with
  | nil => exact ⟨nofun, .nil⟩
  | cons drift drifts ih =>
    obtain ⟨first, others⟩ := List.forall_mem_cons.mp steady
    obtain ⟨kept, near⟩ := drift.steady first
    obtain ⟨all_kept, all_near⟩ := ih others
    exact ⟨List.forall_mem_cons.mpr ⟨kept, all_kept⟩, .cons near all_near⟩

end Square

/-- A frame, and the squares in it. -/
structure Shot where
  squares : List Square
  image : Image

/-- All squares are in the frame and drift no faster than the speed, and the image shows them. -/
structure Shot.InFrame (settings : SquareSettings) (shot : Shot) : Prop where
  count : shot.squares.length = settings.blobs
  steady : ∀ square ∈ shot.squares, square.Steady settings
  shows : shot.image.Shows settings shot.squares

/-- Captures frames one after the other; nothing, if a frame cannot be captured. -/
def SquareSource.film (source : SquareSource) : (frames : Nat) → Option (List Shot)
  | 0 => some []
  | frames + 1 => do
    let (image, next) ← source.capture.toOption
    let rest ← film next frames
    some (⟨next.squares, image⟩ :: rest)

/-- The films that can begin with the given squares, whatever numbers of the ranges asked for are drawn. -/
inductive Films (settings : SquareSettings) : List Square → List Shot → Prop
  | done (squares : List Square) : Films settings squares []
  | shot {squares next : List Square} {film : List Shot} (drifts : List.Forall₂ (Square.Drifts settings) squares next)
      (rest : Films settings next film) : Films settings squares (⟨squares, Square.render settings squares⟩ :: film)

namespace Films

variable {settings : SquareSettings} {squares : List Square} {film : List Shot}

/-- After the first frame, what a source films begins with the squares after another move. -/
theorem exists_next (settings : SquareSettings) (squares : List Square) (draws : Draws) (captured frames : Nat) :
    ∃ next film, List.Forall₂ (Square.Drifts settings) squares next ∧
      SquareSource.film ⟨settings, some draws, squares, captured + 1⟩ frames = some film ∧
      film.length = frames ∧ Films settings next film := by
  induction frames generalizing squares draws captured with
  | zero => exact ⟨_, [], Square.drifts_stepAll settings squares draws, rfl, rfl, .done _⟩
  | succ frames ih =>
    generalize moved : Square.stepAll settings squares draws = result
    obtain ⟨next, rest⟩ := result
    have drifts := Square.drifts_stepAll settings squares draws
    rw [moved] at drifts
    obtain ⟨last, film, onward, filmed, length, films⟩ := ih next rest (captured + 1)
    refine ⟨next, ⟨next, Square.render settings next⟩ :: film, drifts, ?_, congrArg (· + 1) length,
      .shot onward films⟩
    simp [SquareSource.film, SquareSource.capture_next moved, filmed, Except.toOption]

theorem of_opened {source : SquareSource} (opened : SquareSource.Opened settings source) (frames : Nat) :
    ∃ film, source.film frames = some film ∧ film.length = frames ∧ Films settings source.squares film := by
  obtain ⟨-, draws, rfl⟩ := opened.begun
  cases frames with
  | zero => exact ⟨[], rfl, rfl, .done _⟩
  | succ frames =>
    rw [SquareSource.begin]
    generalize Square.drawMany settings settings.blobs draws = drawn
    obtain ⟨squares, rest⟩ := drawn
    obtain ⟨next, film, drifts, filmed, length, films⟩ := exists_next settings squares rest 0 frames
    refine ⟨⟨squares, Square.render settings squares⟩ :: film, ?_, congrArg (· + 1) length, .shot drifts films⟩
    simp [SquareSource.film, SquareSource.capture_first, filmed, Except.toOption]

/-- However the squares drift, they stay in the frame, and go no further than the speed from one to the next. -/
theorem inFrame (films : Films settings squares film) (words : settings.Words) (count : squares.length = settings.blobs)
    (steady : ∀ square ∈ squares, square.Steady settings) :
    (∀ shot ∈ film, shot.InFrame settings) ∧
      film.IsChain fun shot next => List.Forall₂ (Square.Near settings.speed) shot.squares next.squares := by
  induction films with
  | done => exact ⟨nofun, .nil⟩
  | @shot squares next film drifts rest ih =>
    obtain ⟨kept, near⟩ := Square.steady_of_drifts drifts steady
    obtain ⟨shots, chain⟩ := ih (drifts.length_eq.symm.trans count) kept
    refine ⟨List.forall_mem_cons.mpr ⟨⟨count, steady, Square.shows_render words _⟩, shots⟩, ?_⟩
    cases rest with
    | done => exact .singleton _
    | shot => exact List.isChain_cons_cons.mpr ⟨near, chain⟩

end Films

/-- Squares never leave the frame. An opened source has its squares in the frame, and it can capture any number of
frames, in which they drift as chance may let them. And whatever chance does with squares that begin in the frame, its
sides being words of 32 bits, each frame has all of them inside and shows just them, and between two frames none goes
further than the speed. -/
theorem squares_stay_in_frame (settings : SquareSettings) :
    (∀ source, SquareSource.Opened settings source →
      source.squares.length = settings.blobs ∧ (∀ square ∈ source.squares, square.Steady settings) ∧
      ∀ frames, ∃ film, source.film frames = some film ∧ film.length = frames ∧
        Films settings source.squares film) ∧
    ∀ squares film, settings.Words → squares.length = settings.blobs → (∀ square ∈ squares, square.Steady settings) →
      Films settings squares film →
        (∀ shot ∈ film, shot.InFrame settings) ∧
        film.IsChain fun shot next => List.Forall₂ (Square.Near settings.speed) shot.squares next.squares := by
  refine ⟨fun source opened => ?_, fun squares film words count steady films => films.inFrame words count steady⟩
  obtain ⟨valid, draws, rfl⟩ := opened.begun
  obtain ⟨count, steady⟩ := Square.steady_drawMany valid settings.blobs draws
  exact ⟨count, steady, Films.of_opened opened⟩

/-- Squares as high as the frame, and a speed that is greater than the way from side to side. -/
def cramped : SquareSettings := ⟨12, 5, 3, 5, 9, 7⟩

theorem squares_stay_in_frame_cramped :
    let source := SquareSource.begin cramped (Draws.ofSeed cramped.seed)
    SquareSource.Opened cramped source ∧
    ∃ film, source.film 40 = some film ∧ film.length = 40 ∧ (∀ shot ∈ film, shot.InFrame cramped) ∧
      film.IsChain fun shot next => List.Forall₂ (Square.Near cramped.speed) shot.squares next.squares := by
  have opened := SquareSource.Opened.onWords (Draws.ofSeed cramped.seed) (show cramped.validate = .ok () by decide)
  obtain ⟨sources, drifting⟩ := squares_stay_in_frame cramped
  obtain ⟨count, steady, filming⟩ := sources _ opened
  obtain ⟨film, filmed, length, films⟩ := filming 40
  exact ⟨opened, film, filmed, length, drifting _ film (by decide) count steady films⟩

end TouchTracking
