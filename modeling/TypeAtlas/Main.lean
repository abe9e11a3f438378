import TypeAtlas.Inspect.Description

/-!
The command line. It prints the descriptors that are linked into the program, each with the layout of its
record.
-/

namespace TypeAtlas.Inspect

/-- What the command line asks for. -/
structure Options where
  /-- Only entries whose name contains this are shown. -/
  filter : Text := []
  /-- Variant types are described by reflection. -/
  variants : Bool := true
  deriving DecidableEq, Repr

/-- Reads the arguments one after another; one that is not known stops it. -/
def Options.read (o : Options) : List String → Except Text Options
  | [] => .ok o
  | "-list" :: rest => o.read rest
  | "-variants" :: rest => { o with variants := true }.read rest
  | "-variants=false" :: rest => { o with variants := false }.read rest
  | "-filter" :: f :: rest => { o with filter := Text.ofString f }.read rest
  | a :: _ => .error ("flag provided but not defined: " ++ Text.ofString a)

/-- The descriptors that the program has to show. -/
def linked : Registry := {}

/-- What the command prints, or why it stops. -/
def output (args : List String) : Except Text Text :=
  match ({} : Options).read args with
  | .error t => .error t
  | .ok o =>
    let r := if o.variants then describeVariants linked else linked
    match list r o.filter Sink.unbounded with
    | .error t => .error t.text
    | .ok (.error f, _) => .error f.text
    | .ok (.ok (), s) => .ok s.out

end TypeAtlas.Inspect

open TypeAtlas in
/-- Prints the listing, or the reason why there is none. -/
def main (args : List String) : IO UInt32 := do
  match Inspect.output args with
  | .ok t =>
    (← IO.getStdout).write (ByteArray.mk t.toArray)
    return 0
  | .error t =>
    (← IO.getStderr).write (ByteArray.mk ("Error: " ++ t ++ "\n" : Text).toArray)
    return 1
