import NeighbourInfo.Value.Basic

/-
  Reasons for which an operation is refused.

  Key definitions include:
    * `NeighbourInfo.Error`
    * `NeighbourInfo.Error.message`

  An error is a cause with the values it is about; the words
  for it are given in one place.
-/

------------------------------------------------------------
-- Causes
------------------------------------------------------------

namespace NeighbourInfo

/- Why an operation was refused. -/
inductive Error (α : Type) where
  /- The argument is of a kind the operation does not take. -/
  | wrongKind
  /- The object has no operation or part of that name. -/
  | noSuchPart
  /- The number is too large to be represented. -/
  | tooLarge
  /- The lists of an array differ in length or in depth. -/
  | ragged
  /- The array has too few axes to be indexed that way. -/
  | tooFewAxes
  /- The array has no axis to work along. -/
  | missingAxis
  /- The shapes of two arrays do not go together. -/
  | shapeMismatch
  /- The array has no entry of that rank. -/
  | noSuchRank
  /- The array has no axis, and so no entry to be taken. -/
  | noEntries
  | noFirstAxis
  | negativeSize
  | hugeSize
  | hugeArray
  /- There is no room for an array of that size. -/
  | outOfMemory
  /- The array is selected from by one of another length. -/
  | misaligned (axis : Nat) (size : Nat) (choices : Nat)
  /- The entries selected would be under too many axes. -/
  | tooManyAxes (axes : Nat)
  | tooManyLengths (found : Nat)
  | unequalShapes (s : List Nat) (t : List Nat)
  | notWhole (s : String)
  /- The entry of an array of texts is no whole number. -/
  | notWholeEntry (s : String)
  | tooManyDigits (digits : Nat)
  | notNumeric (s : String)
  | undefinedWhole
  /- The value is none that an array can be indexed with. -/
  | notIndex
  | outOfBounds (index : Int) (size : Nat)
  | divisionByZero
  | negativeScale
  | flatData (dim : Value α)
  | wrongAxes (axes : Nat)
  | wrongColumns (dim : Value α) (columns : Nat)
  | noBlocks
  | nestedIndices
  | wrongMask (entries : Nat) (rows : Nat)
  | unknownNorm (name : Value α)
  | notBoolean (v : Value α)
  | smallDimension
  | smallNeighbours (k : Int)
  | smallThreads (n : Int)
  | negativeWindow (window : Int)
  | notInitialised
  | notAdding
  | unequalRows (x : Nat) (y : Nat) (z : Nat)
  | noObservations
  | notFinalised
  | wrongVariable (v : Value α)
  | wrongReordering (entries : Nat) (rows : Nat)
  | noSurrogates
  | wrongAlgorithm (v : Value α)
  | noAlgorithm
  | tooFewNeighbours
      (point : Int)
      (found : Nat)
      (k : Value α)
  | wrongThreads
  | notImplemented
  | noLocalsOfNew
  | blockFailed (start : Int)

end NeighbourInfo

------------------------------------------------------------
-- Messages
------------------------------------------------------------

namespace NeighbourInfo

namespace Error

variable {α : Type} [Literal α]

/-
  The words for a text that is no whole number, which is shown
  up to its first two hundred characters.
-/
def notWholeMessage
    (shown : String) :
    String :=
  "invalid literal for int() with base 10: " ++
    String.ofList (shown.toList.take 200)

/- The lengths along some axes, as they are written. -/
def shapeText :
    List Nat → String
  | [n] => "(" ++ toString n ++ ",)"
  | shape =>
      "(" ++ ",".intercalate (shape.map toString) ++ ")"

/- The words for a cause. -/
def message :
    Error α → String
  | .notWhole s => notWholeMessage (Text.quoted s)
  | .notWholeEntry s =>
      notWholeMessage ("np.str_(" ++ Text.quoted s ++ ")")
  | .tooManyDigits digits =>
      "Exceeds the limit (" ++ toString Decimal.maxDigits ++
        " digits) for integer string conversion: " ++
        "value has " ++ toString digits ++ " digits; use " ++
        "sys.set_int_max_str_digits() to increase the limit"
  | .notNumeric s =>
      "could not convert string to float: " ++ Text.quoted s
  | .undefinedWhole =>
      "cannot convert float NaN to integer"
  | .notIndex =>
      "only integers, slices (`:`), ellipsis " ++
        "(`...`), numpy.newaxis (`None`) and " ++
        "integer or boolean arrays are valid indices"
  | .outOfBounds index size =>
      "index " ++ toString index ++
        " is out of bounds for axis 0 with size " ++
        toString size
  | .noEntries => "invalid index to scalar variable."
  | .noFirstAxis => "tuple index out of range"
  | .negativeSize => "negative dimensions are not allowed"
  | .hugeSize => "Maximum allowed dimension exceeded"
  | .hugeArray =>
      "array is too big; `arr.size * arr.dtype.itemsize` " ++
        "is larger than the maximum possible size."
  | .misaligned axis size choices =>
      "boolean index did not match indexed array along " ++
        "axis " ++ toString axis ++ "; size of axis is " ++
        toString size ++ " but size of corresponding " ++
        "boolean axis is " ++ toString choices
  | .tooManyAxes axes =>
      "number of dimensions must be within [0, 64], " ++
        "indexing result would have " ++ toString axes
  | .tooManyLengths found =>
      "maximum supported dimension for an ndarray " ++
        "is currently 64, found " ++ toString found
  | .unequalShapes s t =>
      "operands could not be broadcast together with " ++
        "shapes " ++ shapeText s ++ " " ++ shapeText t ++ " "
  | .divisionByZero => "float division by zero"
  | .negativeScale => "scale < 0"
  | .flatData dim =>
      "1-d data given for a variable of dimension " ++
        dim.toText
  | .wrongAxes axes =>
      "data must be 1-d or 2-d, got " ++ toString axes ++
        " dimensions"
  | .wrongColumns dim columns =>
      "expected " ++ dim.toText ++ " columns, got " ++
        toString columns
  | .noBlocks => "n_blocks must be at least 1"
  | .nestedIndices => "indices must be a 1-d sequence"
  | .wrongMask entries rows =>
      "mask has " ++ toString entries ++
        " entries but data has " ++ toString rows ++
        " observations"
  | .unknownNorm name => "unknown norm type: " ++ name.quoted
  | .notBoolean v =>
      "cannot interpret " ++ v.quoted ++ " as a boolean"
  | .smallDimension => "all dimensions must be at least 1"
  | .smallNeighbours k =>
      "k must be at least 1, got " ++ toString k
  | .smallThreads n =>
      "number of threads must be at least 1, got " ++
        toString n
  | .negativeWindow window =>
      "DYN_CORR_EXCL must be >= 0, got " ++ toString window
  | .notInitialised =>
      "initialise() must be called before adding observations"
  | .notAdding =>
      "start_adding_observations() must be called first"
  | .unequalRows x y z =>
      "unequal number of observations (x: " ++ toString x ++
        ", y: " ++ toString y ++ ", z: " ++ toString z ++ ")"
  | .noObservations => "no observations were added"
  | .notFinalised =>
      "observations must be finalised before computing"
  | .wrongVariable v =>
      "variable to reorder must be 1 or 2, got " ++ v.toText
  | .wrongReordering entries rows =>
      "reordering has " ++ toString entries ++
        " entries for " ++ toString rows ++ " observations"
  | .noSurrogates =>
      "provide either n_permutations >= 1 or orderings"
  | .wrongAlgorithm v =>
      "algorithm must be 1 or 2, got " ++ v.toText
  | .noAlgorithm =>
      "KraskovCMI does not define a KSG algorithm"
  | .tooFewNeighbours point found k =>
      "point " ++ toString point ++ " has only " ++
        toString found ++ " admissible neighbours, " ++
        "fewer than k=" ++ k.toText
  | .wrongThreads => "invalid parameter value"
  | .noLocalsOfNew => "Local method not implemented yet"
  | .blockFailed start => "block " ++ toString start
  | _ => ""

end Error

end NeighbourInfo
