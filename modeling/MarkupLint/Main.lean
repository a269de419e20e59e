import MarkupLint.CommandLine.Run
/-!
# The program

The program as it is started: it looks at the part of the disk that its command line names, runs,
and shows what came of it. As a server it answers message by message.
-/

namespace MarkupLint.Program

/-- The environment variables that matter. -/
def readEnvironment : IO (List (String × String)) := do
  let names := ["PATH", "HOME", "XDG_CONFIG_HOME", "TMPDIR"]
  names.filterMapM fun name => do return (← IO.getEnv name).map (name, ·)

/-- A file or directory on the disk with everything below it, put into a tree. -/
def readInto (files : FileTree) (place : String) : IO FileTree := do
  let root ← try IO.FS.realPath place catch _ => return files
  if ← root.isDir then
    let mut files := files.put (Path.ofString root.toString) .directory
    for inner in ← root.walkDir do
      let path := Path.ofString inner.toString
      if ← inner.isDir then files := files.put path .directory
      else if ← inner.pathExists then
        let content ← try IO.FS.readBinFile inner catch _ => pure ByteArray.empty
        files := files.put path (.file content.toList false)
    return files
  else if ← root.pathExists then
    let content ← IO.FS.readBinFile root
    return files.put (Path.ofString place) (.file content.toList false)
  else return files

/-- The world of a run: the working directory, the named paths and the user's preferences. -/
def readWorld (named : List Path) : IO World := do
  let environment ← readEnvironment
  let directory := (← IO.currentDir).toString
  let files ← readInto (FileTree.empty (Path.ofString directory)) directory
  let world : World := ⟨files, environment⟩
  let places := named ++ (PreferenceStore.defaultPath? world).toList
  let files ← places.foldlM (fun files path => readInto files path.display) files
  return { world with files }

/-- Show notices on the error stream. -/
def showNotices (notices : List Notice) : IO Unit :=
  notices.forM fun notice => IO.eprintln notice.line

/-- How the program is used. -/
def usage : String :=
  "Usage: markuphint [OPTIONS] <COMMAND>\n\nCommands:\n" ++
  "  lint <PATHS>... [-f text|json]  Lint files\n" ++
  "  config <html|xml>               Print the merged ruleset for a language\n" ++
  "  lsp                             Start the language server\n\nOptions:\n" ++
  "  --project-root <PATH>  --preferences <PATH>  --engine <PROGRAM>\n" ++
  "  --engine-arg <ARG>  -v, --verbose  -h, --help  -V, --version\n"

/-- Show everything about a run. -/
def showCompletion (completion : CommandLine.Completion) : IO UInt32 := do
  showNotices completion.notices
  completion.failures.forM IO.eprintln
  match completion.output with
  | .text text => IO.print text
  | .help => IO.print usage
  | .messages bodies => bodies.forM fun body => IO.print (Server.frame body)
  return UInt32.ofNat completion.code

/-- Serve the host at the other end of the standard streams until it leaves. -/
partial def serve (input output : IO.FS.Stream) (server : Server) (buffer : Octets)
    (before : Nat) : IO Unit := do
  let chunk ← input.read 4096
  let world ← readWorld []
  let now ← IO.monoMsNow
  let (bodies, rest) := Server.takeFrames (buffer ++ chunk.toList)
  let waited := Server.Conversation.advance world ⟨server, [], []⟩ (now - before)
  let conversation := waited.takeAll world (bodies.map some)
  showNotices conversation.notices
  for message in conversation.sent do output.putStr (Server.frame message)
  output.flush
  unless chunk.isEmpty || conversation.server.phase = .exited do
    serve input output conversation.server rest now

/-- Run the program with the words of its command line. -/
def run (words : List String) : IO UInt32 := do
  let wish := CommandLine.Wish.ofWords words
  let world ← readWorld wish.paths
  match wish with
  | .run options .serve =>
      match options.startServer world with
      | .error _ => return 2
      | .ok (server, notices) =>
          showNotices notices
          serve (← IO.getStdin) (← IO.getStdout) server [] (← IO.monoMsNow)
          return 0
  | _ => showCompletion (CommandLine.run world words [])

end MarkupLint.Program

/-- The entry point. -/
def main (words : List String) : IO UInt32 := MarkupLint.Program.run words
