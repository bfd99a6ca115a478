/-!
Filling lines with words: a word goes onto the line before it as long as the line has room.
`flatten_fill` says that no word is lost or moved, and `width_fill` that a line which is too wide
holds one word alone.
-/

namespace SchemaModels.Text

/-- The width of words on one line, with a blank between two of them. -/
def lineWidth : List String → Nat
  | [] => 0
  | [w] => w.length
  | w :: ws => w.length + 1 + lineWidth ws

/-- Lines of at most the given width, as far as words fit; `line` is the one being filled. -/
def fillFrom (width : Nat) (line : List String) : List String → List (List String)
  | [] => [line]
  | w :: ws =>
    if lineWidth (line ++ [w]) ≤ width then fillFrom width (line ++ [w]) ws
    else line :: fillFrom width [w] ws

/-- Lines of at most the given width, as far as words fit. -/
def fill (width : Nat) : List String → List (List String)
  | [] => []
  | w :: ws => fillFrom width [w] ws

theorem flatten_fillFrom (width : Nat) (line ws : List String) :
    (fillFrom width line ws).flatten = line ++ ws := by
  induction ws generalizing line with
  | nil => simp [fillFrom]
  | cons w ws ih =>
    unfold fillFrom
    split
    · simp [ih]
    · simp [ih]

theorem flatten_fill (width : Nat) (ws : List String) : (fill width ws).flatten = ws := by
  cases ws with
  | nil => rfl
  | cons w ws => simp [fill, flatten_fillFrom]

theorem width_fillFrom (width : Nat) (line ws : List String)
    (hline : lineWidth line ≤ width ∨ line.length = 1) :
    ∀ l ∈ fillFrom width line ws, lineWidth l ≤ width ∨ l.length = 1 := by
  induction ws generalizing line with
  | nil => simpa [fillFrom] using hline
  | cons w ws ih =>
    unfold fillFrom
    split
    case isTrue h => exact ih _ (.inl h)
    case isFalse =>
      intro l hl
      rcases List.mem_cons.mp hl with rfl | hl
      · exact hline
      · exact ih [w] (.inr rfl) l hl

theorem width_fill (width : Nat) (ws : List String) :
    ∀ l ∈ fill width ws, lineWidth l ≤ width ∨ l.length = 1 := by
  cases ws with
  | nil => simp [fill]
  | cons w ws => exact width_fillFrom width [w] ws (.inr rfl)

end SchemaModels.Text
