import Gateway.Config.Build
import Gateway.Config.Load

/-!
# Command line

`gateway [FILE]` loads a configuration, `config.yaml` unless a file is named, and builds
its locations. It tells where the gateway listens and what it serves, or what is wrong.
-/

namespace Gateway

/-- A location in one line: where its requests come from, and where they go. -/
def LocationSettings.text (s : LocationSettings) : String :=
  s.name ++ ": " ++ s.host.getD "*" ++ s.pathStart ++ " -> " ++ " ".intercalate s.endpoints

/-- What a configuration comes to, in lines. -/
def Configuration.overview (c : Configuration) : Except Error (List String) := do
  let _ : Installation Empty Empty Unit ← c.build ()
  pure (("listen: " ++ c.listen.text) :: c.locations.map LocationSettings.text)

/-- Loads and builds the configuration in a file. -/
def overviewOf (name : String) (content : Option Bytes) : Except String (List String) :=
  match Configuration.load name.toList content with
  | .error f => .error f.message
  | .ok c => c.overview.mapError Error.message

end Gateway

def main (args : List String) : IO UInt32 := do
  let name := args.headD "config.yaml"
  let content ← (some <$> IO.FS.readBinFile name) <|> pure none
  match Gateway.overviewOf name (content.map (·.toList)) with
  | .ok lines =>
      lines.forM IO.println
      pure 0
  | .error message =>
      IO.eprintln ("Error: " ++ message)
      pure 1
