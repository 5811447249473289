import Mathlib.Data.List.Basic

/-!
# What a histogram writes out

`SerializeInfo` writes the histogram's type as an `int`, then the fields its
class writes (`SerializeInfoImpl`); `DeserializeHistogramInfo` reads the `int`
back and hands the rest to the `DeserializeInfoImpl` of the class it names.
A pickle is a sequence of 32-bit words: `WriteInt` appends one, and every
field is padded to whole words. The `HistogramType` enumerators are declared
outside these sources; their values are those of their declaration order,
which `HistogramTypeToString` follows.

`WriteAsciiBucketGraph` draws a bar of `x_count` dashes, an `O` and spaces to
72 columns, with two `while (0 < n--)` loops.
-/

namespace BaseLib.Metrics

inductive HistogramType
  | histogram
  | linearHistogram
  | booleanHistogram
  | customHistogram
  | sparseHistogram
  | dummyHistogram
  deriving DecidableEq, Repr

def HistogramType.toInt : HistogramType → Int
  | .histogram => 0
  | .linearHistogram => 1
  | .booleanHistogram => 2
  | .customHistogram => 3
  | .sparseHistogram => 4
  | .dummyHistogram => 5

def histogramTypeToString : HistogramType → String
  | .histogram => "HISTOGRAM"
  | .linearHistogram => "LINEAR_HISTOGRAM"
  | .booleanHistogram => "BOOLEAN_HISTOGRAM"
  | .customHistogram => "CUSTOM_HISTOGRAM"
  | .sparseHistogram => "SPARSE_HISTOGRAM"
  | .dummyHistogram => "DUMMY_HISTOGRAM"

-- ---------------------------------------------------------------------------
-- SerializeInfo and DeserializeHistogramInfo
-- ---------------------------------------------------------------------------

abbrev Pickle := List (BitVec 32)

/-- `SerializeInfo(pickle)`: `WriteInt(GetHistogramType())`, then the words
`SerializeInfoImpl` writes. -/
def serializeInfo (type : HistogramType) (serializeInfoImpl : Pickle) (pickle : Pickle) : Pickle :=
  pickle ++ BitVec.ofInt 32 type.toInt :: serializeInfoImpl

/-- The types the `switch` of `DeserializeHistogramInfo` has a `case` for. -/
def deserializableTypes : List HistogramType :=
  [.histogram, .linearHistogram, .booleanHistogram, .customHistogram, .sparseHistogram]

/-- `DeserializeHistogramInfo(iter)`, given each class's `DeserializeInfoImpl`:
`nullptr` (`none`) when `ReadInt` fails or the type has no `case`. -/
def deserializeHistogramInfo {α : Type} (deserializeInfoImpl : HistogramType → Pickle → Option α) :
    Pickle → Option α
  | [] => none
  | type :: iter =>
    match deserializableTypes.find? fun t => t.toInt = type.toInt with
    | some t => deserializeInfoImpl t iter
    | none => none

-- ---------------------------------------------------------------------------
-- WriteAsciiBucketGraph
-- ---------------------------------------------------------------------------

/-- `while (0 < n--) output->append(s);` -/
def appendWhilePositive (s : List Char) (n : Int) (output : List Char) : List Char :=
  if 0 < n then appendWhilePositive s (n - 1) (output ++ s) else output
termination_by n.toNat

/-- `WriteAsciiBucketGraph(current_size, max_size, output)`, with
`x_count = lround(k_line_length * (current_size / max_size))`. -/
def writeAsciiBucketGraph (xCount : Int) (output : List Char) : List Char :=
  let kLineLength := 72
  let xRemainder := kLineLength - xCount
  appendWhilePositive [' '] xRemainder (appendWhilePositive ['-'] xCount output ++ ['O'])

end BaseLib.Metrics
