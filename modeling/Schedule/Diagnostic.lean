import Schedule.Token

/-! # Diagnostics

A complaint about a schedule is shown with the stretch of text around the token it is about and,
on a line below, a caret under the token's first character. The window says how many characters
are shown before the token and after its end. Offsets and windows are any integers: a window that
ends before the text begins counts its end from the end of the text.
-/

namespace Schedule

/-- How much of the text around a token is shown. -/
structure Window where
  before : Int := 10
  after : Int := 20
  deriving DecidableEq, Repr

namespace Window

/-- The offset of the first character shown for a token at `index`. -/
def start (window : Window) (index : Int) : Int :=
  max (index - window.before) 0

/-- The offset after the last character shown for a token at `index`, in a text of `size`
characters. -/
def stop (window : Window) (index length size : Int) : Int :=
  min (index + length + window.after) size

theorem start_nonneg (window : Window) (index : Int) : 0 ≤ window.start index :=
  Int.le_max_right ..

theorem stop_le_size (window : Window) (index length size : Int) :
    window.stop index length size ≤ size :=
  Int.min_le_right ..

end Window

namespace Diagnostic

/-- The characters from `start` up to `stop`. A negative `stop` counts back from the end of the
text. -/
def snippet (text : List Char) (start stop : Int) : List Char :=
  let last := if stop < 0 then stop + text.length else stop
  (text.take last.toNat).drop start.toNat

/-- The caret line under the characters from `start` up to `stop`: a caret at `index`, else
spaces, and one more caret if `index` lies at or after the end. -/
def pointer (start stop index : Int) : List Char :=
  ((List.range (stop - start).toNat).map fun (n : Nat) => if start + n = index then '^' else ' ') ++
    if stop ≤ index then ['^'] else []

/-- The three lines shown for a complaint about the `length` characters from `index` on. -/
def render (window : Window) (message text : String) (index length : Int) : String :=
  let chars := text.toList
  let start := window.start index
  let stop := window.stop index length chars.length
  message ++ "\n    " ++ String.ofList (snippet chars start stop) ++
    "\n    " ++ String.ofList (pointer start stop index)

end Diagnostic

/-- A complaint as its reader gets it: the text it is about, the token to blame if there is one,
and the window to show. -/
structure Report where
  message : String
  source : String
  token : Option Token
  window : Window
  deriving DecidableEq, Repr

namespace Report

/-- The offset of the token to blame, or -1 if there is none. -/
def position (report : Report) : Int :=
  match report.token with
  | some token => token.index
  | none => -1

/-- The report in full: with its snippet and caret, or the bare message if no token is to blame. -/
def text (report : Report) : String :=
  match report.token with
  | some token =>
    Diagnostic.render report.window report.message report.source token.index token.value.length
  | none => report.message

end Report

end Schedule
