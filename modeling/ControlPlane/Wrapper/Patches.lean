/-
ControlPlane/Wrapper/Patches.lean

The three scripts that patch the wrapper's `server.js`.

Each is a list of replacements of an exact block of text by another one.  All
guards are evaluated on the text as it was read: the injected text must be
absent and the block must occur exactly once.  Then the replacements are made
one after another, and the file is written once at the end.

Two of the scripts look for the whole new block to tell that they have been
applied before; the webhook script looks for a marker of its own, since the
scoped-export script may come between its import and the line it is anchored on.
-/
import ControlPlane.Substitution.Layout

namespace Wrapper

/-! ### The blocks -/

/-- The definition that is put in. -/
def stopGatewayAndWaitDefinition : String :=
  "async function stopGatewayAndWait() \x7b
  const proc = gatewayProc;
  if (!proc) return;
  try \x7b
    proc.kill(\"SIGTERM\");
  \x7d catch \x7b
    // ignore
  \x7d
  // Wait for the process to actually exit (escalating to SIGKILL after a timeout) before considering the gateway slot free.
  const alreadyExited = proc.exitCode !== null || proc.signalCode !== null;
  const exited = alreadyExited ? Promise.resolve() : new Promise((resolve) => proc.once(\"exit\", () => resolve()));
  const timedOut = alreadyExited ? false : await Promise.race([exited.then(() => false), sleep(5000).then(() => true)]);
  if (timedOut) \x7b
    try \x7b
      proc.kill(\"SIGKILL\");
    \x7d catch \x7b
      // ignore
    \x7d
    // Bounded even after SIGKILL: an uninterruptible/stuck process must not
    // block restarts forever. On a second timeout, throw WITHOUT clearing
    // gatewayProc so no caller spawns a concurrent gateway beside it.
    const stillRunning = await Promise.race([exited.then(() => false), sleep(5000).then(() => true)]);
    if (stillRunning) \x7b
      throw new Error(\"gateway process did not exit within 5s of SIGKILL; refusing to start a second gateway\");
    \x7d
  \x7d
  gatewayProc = null;
\x7d"

/-- The line the restart begins with. -/
def restartDeclaration : String := "async function restartGateway() \x7b"

/-- The restart as it stands. -/
def restartBlock : String :=
  "  if (gatewayProc) \x7b
    try \x7b
      gatewayProc.kill(\"SIGTERM\");
    \x7d catch \x7b
      // ignore
    \x7d
    // Give it a moment to exit and release the port.
    await sleep(750);
    gatewayProc = null;
  \x7d
  return ensureGatewayRunning();"

/-- The restart as it is to be. -/
def restartBlockNew : String :=
  "  if (gatewayProc) \x7b
    await stopGatewayAndWait();
  \x7d
  return ensureGatewayRunning();"

/-- The import handler as it stands. -/
def importBlock : String :=
  "    // Stop gateway before restore so we don't overwrite live files.
    if (gatewayProc) \x7b
      try \x7b gatewayProc.kill(\"SIGTERM\"); \x7d catch \x7b\x7d
      await sleep(750);
      gatewayProc = null;
    \x7d"

/-- The import handler as it is to be. -/
def importBlockNew : String :=
  "    // Stop gateway before restore so we don't overwrite live files.
    if (gatewayProc) \x7b
      await stopGatewayAndWait();
    \x7d"

/-- The import the others are put behind. -/
def tarImport : String := "import * as tar from \"tar\";"

/-- The import of the export's module. -/
def stateImport : String :=
  "import \x7b buildStateExportTree \x7d from \"./wrapper-state-export.mjs\";"

/-- The import of the webhook's module. -/
def hookImport : String :=
  "import \x7b handleGithubWebhookVerify \x7d from \"./wrapper-github-webhook-verify.mjs\";"

/-- The export handler as it stands. -/
def exportHandler : String :=
  "app.get(\"/setup/export\", requireSetupAuth, async (_req, res) => \x7b"

/-- What the scoped-export script puts behind the opening line of the handler. -/
def scopeDelegate : String :=
  "
  // Control-plane patch (scripts/patch-wrapper-scoped-export.mjs): scoped
  // export. `?scope=state` archives only the state subset via
  // wrapper-state-export.mjs; any other non-empty scope is a 400; no scope
  // falls through to the unmodified full export below.
  \x7b
    const scope = _req.query.scope;
    if (scope === \"state\") \x7b
      // Same guarantee the unscoped handler makes right after this delegate:
      // a never-configured instance has no state dir yet, and an empty export
      // is the correct answer for it, not a 500.
      fs.mkdirSync(STATE_DIR, \x7b recursive: true \x7d);
      const targetRoot = fs.mkdtempSync(path.join(os.tmpdir(), \"openclaw-state-export-\"));
      const removeTargetRoot = () => \x7b
        try \x7b
          fs.rmSync(targetRoot, \x7b recursive: true, force: true \x7d);
        \x7d catch \x7b
          // best effort: the directory is under os.tmpdir()
        \x7d
      \x7d;
      // The archive is built COMPLETELY before any response header is set, so
      // every failure (tree build, cap, node:sqlite, tar entry error) becomes a
      // clean text/plain 500 -- never a partial body under application/gzip.
      const archivePath = path.join(targetRoot, \"state.tar.gz\");
      try \x7b
        // maxBytes: wrapper-state-export.mjs resolves OPENCLAW_STATE_EXPORT_MAX_BYTES (default 200 MiB).
        await buildStateExportTree(\x7b stateDir: STATE_DIR, targetRoot \x7d);
        await tar.c(
          \x7b
            gzip: true,
            portable: true,
            noMtime: true,
            cwd: targetRoot,
            file: archivePath,
            // A backup must never be silently partial: strict mode turns entry
            // errors (unreadable file, vanished path) into a rejection handled
            // below, and any non-fatal warning is logged rather than swallowed.
            strict: true,
            onwarn: (code, message) => console.warn(\"[export] scope=state tar warning:\", code, message),
          \x7d,
          [\".openclaw\"],
        );
      \x7d catch (err) \x7b
        removeTargetRoot();
        console.error(\"[export] scope=state failed:\", err);
        return res
          .status(500)
          .type(\"text/plain\")
          .send(`state export failed: $\x7berr?.message ?? String(err)\x7d\\n`);
      \x7d
      const archiveSize = fs.statSync(archivePath).size;
      res.setHeader(\"content-type\", \"application/gzip\");
      res.setHeader(\"content-length\", String(archiveSize));
      res.setHeader(
        \"content-disposition\",
        `attachment; filename=\"openclaw-backup-state-$\x7bnew Date().toISOString().replace(/[:.]/g, \"-\")\x7d.tar.gz\"`,
      );
      // finally-equivalent for a streamed response: the temp tree (archive
      // included) is removed as soon as the response finishes (a keep-alive
      // socket may not emit \"close\" until much later) and again on \"close\" for
      // aborted requests; removeTargetRoot is idempotent (rmSync with force).
      res.once(\"finish\", removeTargetRoot);
      res.once(\"close\", removeTargetRoot);
      const archiveStream = fs.createReadStream(archivePath);
      archiveStream.on(\"error\", (err) => \x7b
        // Headers are already out; the only honest signal left is to abort the
        // connection so the client cannot mistake a truncated body for success.
        console.error(\"[export] scope=state read error:\", err);
        res.destroy(err);
      \x7d);
      archiveStream.pipe(res);
      return;
    \x7d
    if (scope !== undefined && scope !== \"\") \x7b
      return res
        .status(400)
        .type(\"text/plain\")
        .send(`unknown export scope $\x7bJSON.stringify(String(scope))\x7d; supported: state\\n`);
    \x7d
  \x7d"

/-- The line of the body parser. -/
def bodyParser : String := "app.use(express.json(\x7b limit: \"1mb\" \x7d));"

/-- What the webhook script puts in front of the body parser. -/
def hookRoute : String :=
  "// Control-plane patch (scripts/patch-wrapper-github-webhook.mjs): registers
// POST /hooks/github-webhook-verify ahead of both the global express.json()
// body-parser below and the requireDashboardAuth catch-all further down, so
// a request to it is handled here -- with its own raw-body read, before
// anything else can consume the request stream -- and never reaches the
// OpenClaw gateway. Verification logic: ./wrapper-github-webhook-verify.mjs.
app.post(\"/hooks/github-webhook-verify\", (req, res) => \x7b
  handleGithubWebhookVerify(req, res).catch((err) => \x7b
    console.error(\"[github-webhook-verify] handler error:\", err);
    if (!res.headersSent) res.status(500).end();
  \x7d);
\x7d);

"

/-- What the webhook's route is known by. -/
def routeMarker : String := "app.post(\"/hooks/github-webhook-verify\""

/-! ### The scripts -/

/-- One replacement.  `marker` is the text looked for to tell that it has been
made already, where that is not the new block. -/
structure Replacement where
  label : String
  oldBlock : String
  newBlock : String
  marker : Option String := none

/-- What shows that a replacement was made. -/
def Replacement.injected (r : Replacement) : String := r.marker.getD r.newBlock

/-- The three scripts. -/
inductive Script where
  | restartGateway
  | scopedExport
  | githubWebhook
  deriving DecidableEq

/-- The file names of the scripts. -/
def Script.name : Script → String
  | .restartGateway => "restart-gateway"
  | .scopedExport => "scoped-export"
  | .githubWebhook => "github-webhook"

/-- The replacements of each script, in order. -/
def Script.replacements : Script → List Replacement
  | .restartGateway =>
      [{ label := "restartGateway() declaration line (anchor for the stopGatewayAndWait() definition)"
         oldBlock := restartDeclaration
         newBlock := stopGatewayAndWaitDefinition ++ "\n\n" ++ restartDeclaration },
       { label := "restartGateway() inline kill/sleep(750)/null block"
         oldBlock := restartBlock
         newBlock := restartBlockNew },
       { label := "/setup/import handler inline kill/sleep(750)/null block"
         oldBlock := importBlock
         newBlock := importBlockNew }]
  | .scopedExport =>
      [{ label := "tar import line (anchor for the wrapper-state-export import)"
         oldBlock := tarImport
         newBlock := tarImport ++ "\n" ++ stateImport },
       { label := "/setup/export handler opening line (anchor for the ?scope=state delegate)"
         oldBlock := exportHandler
         newBlock := exportHandler ++ scopeDelegate }]
  | .githubWebhook =>
      [{ label := "tar import line (anchor for the wrapper-github-webhook-verify import)"
         oldBlock := tarImport
         newBlock := tarImport ++ "\n" ++ hookImport
         marker := some hookImport },
       { label := "global JSON body-parser registration (anchor for the github-webhook route registration)"
         oldBlock := bodyParser
         newBlock := hookRoute ++ bodyParser
         marker := some routeMarker }]

/-- What each script prints in the end. -/
def Script.done (targetPath : String) : Script → String
  | .restartGateway =>
      "patched restartGateway() and /setup/import to share stopGatewayAndWait() in " ++ targetPath
  | .scopedExport => "patched /setup/export with the ?scope=state delegate in " ++ targetPath
  | .githubWebhook => "patched " ++ targetPath ++ " with the POST /hooks/github-webhook-verify route"

/-! ### Running a script -/

/-- `content.split(block).length - 1`. -/
def occurrences (content block : String) : ℕ :=
  (Substitution.split content.toList block.toList).length - 1

/-- The error of a replacement that may not be made. -/
def Script.guard (p : Script) (targetPath content : String) (r : Replacement) : Option String :=
  let alreadyApplied := occurrences content r.injected
  if alreadyApplied ≠ 0 then
    some ("the " ++ r.label ++ " replacement is already present in " ++ targetPath ++ " (found " ++
      toString alreadyApplied ++ " occurrence(s) of the injected block); " ++
      "refusing to apply the " ++ p.name ++ " patch twice.")
  else if occurrences content r.oldBlock ≠ 1 then
    some ("expected exactly 1 occurrence of the " ++ r.label ++ " in " ++ targetPath ++ ", found " ++
      toString (occurrences content r.oldBlock) ++ ". " ++
      "The pinned wrapper's source may have changed -- re-verify this patch against the " ++
      "current source before proceeding.")
  else
    none

/-- The exit status, the file afterwards and what is printed. -/
structure Outcome where
  status : ℕ
  file : String
  stderr : List String
  stdout : List String

/-- `patched.replace(oldBlock, () => newBlock)` for each replacement. -/
def apply (replacements : List Replacement) (content : String) : String :=
  replacements.foldl
    (fun patched r => String.ofList
      (Substitution.replaceFirst patched.toList r.oldBlock.toList r.newBlock.toList)) content

/-- The script on a file; the path is empty where none is given. -/
def Script.run (p : Script) (targetPath content : String) : Outcome :=
  if targetPath = "" then
    { status := 1
      file := content
      stderr := ["usage: node patch-wrapper-" ++ p.name ++ ".mjs <path-to-server.js>"]
      stdout := [] }
  else
    let errors := p.replacements.filterMap (p.guard targetPath content)
    if errors ≠ [] then
      { status := 1, file := content, stderr := errors, stdout := [] }
    else
      { status := 0
        file := apply p.replacements content
        stderr := []
        stdout := [p.done targetPath] }

end Wrapper
