import ApiAtlas.Cli.Run
import ApiAtlas.Workspace.Bundle

/-!
# The program

Reads a workspace as JSON from standard input, carries out the command line in it, writes the files
that the run has made, and shows its screen.
-/

set_option autoImplicit false

namespace ApiAtlas

/-- A line of the screen as it is printed. -/
def Cli.ScreenLine.print : Cli.ScreenLine → String
  | .text s => s
  | .cells cs => String.intercalate " | " cs

/-- Writes a file, after the folders that it lies in. -/
def saveFile (f : StoredFile) : IO Unit := do
  let path : FilePath := ⟨1, f.names⟩
  IO.FS.createDirAll path.parent.toString
  IO.FS.writeBinFile path.toString (ByteArray.mk f.bytes.toArray)

end ApiAtlas

/-- Runs a command line in the workspace on standard input. -/
def main (words : List String) : IO UInt32 := do
  let text ← (← IO.getStdin).readToEnd
  match ApiAtlas.Json.parse? text with
  | none =>
    IO.eprintln "The workspace on standard input is not JSON."
    return 2
  | some value =>
    let w := ApiAtlas.Workspace.ofJson value
    let o := ApiAtlas.Cli.run w words
    (o.workspace.changedSince w).forM ApiAtlas.saveFile
    o.screen.forM fun line => IO.println line.print
    return o.exit.toUInt32
