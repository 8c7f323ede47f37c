import Lifeline.CommandLine.BuiltinFont

/-!
# The program

The command line in the real world: its files, its standard input and output,
and its exit code.
-/

namespace Lifeline

open CommandLine

def pathError : IO.Error → PathError
  | .noFileOrDirectory _ _ _ => .missing
  | .inappropriateType _ code reason =>
      if code = 20 then .notDirectory
      else if code = 21 then .isDirectory
      else .other code.toNat reason
  | .permissionDenied _ code _ => .other code.toNat "Permission denied"
  | error => .other 5 error.toString

partial def readAll (stream : IO.FS.Stream) (before : ByteArray) : IO ByteArray := do
  let chunk ← stream.read 65536
  if chunk.isEmpty then pure before
  else readAll stream (before ++ chunk)

/-- Do something to a file, unless its path cannot be one.  Paths that are not text
are out of reach. -/
def attempt {α : Type} (path : Text.Letters) (action : String → IO α) :
    IO (Except PathError α) :=
  match FileTree.check path, path.text? with
  | .error error, _ => pure (.error error)
  | .ok _, none => pure (.error .missing)
  | .ok _, some path =>
      try
        Except.ok <$> action path
      catch error =>
        pure (.error (pathError error))

def readFile (path : Text.Letters) : IO (Except PathError ByteArray) :=
  attempt path fun path => IO.FS.readBinFile path

def system : World IO where
  input := do readAll (← IO.getStdin) ByteArray.empty
  read := readFile
  write path content := attempt path fun path => IO.FS.writeBinFile path content
  builtinFont := Measurer.builtin?
  loadFont path size := do
    pure (.error (fontFileError path size (← readFile path)))

end Lifeline

open Lifeline CommandLine in
def main (arguments : List String) : IO UInt32 := do
  let outcome ← run system (arguments.map Text.Letters.ofText)
  (← IO.getStdout).putStr outcome.output
  (← IO.getStderr).putStr outcome.errors
  match outcome.ending with
  | .exit code => pure code.toUInt32
  | .failure failure => do
      let plain :=
        match failure with
        | .noFontSize => "there is no font size"
        | .surrogateInPath | .surrogateInDrawing => "surrogates not allowed"
        | _ => "the input is not UTF-8"
      (← IO.getStderr).putStrLn (failure.message?.getD plain)
      pure 1
