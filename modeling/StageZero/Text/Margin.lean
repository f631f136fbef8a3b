/-! The blank space before an indented line. -/
namespace StageZero.Text

/-- Four spaces a level. -/
def margin (depth : Nat) : String := String.ofList (List.replicate (4 * depth) ' ')

end StageZero.Text
