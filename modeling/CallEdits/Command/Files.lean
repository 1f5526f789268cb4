import CallEdits.Command.Basic

/-!
# Command/Files — the files that a command looks at

Which files a command needs shows itself step by step: the configuration file names the report, and
the report names the sources.  `wanted` says what is needed as far as a disk tells; on a disk that
holds these files it may name more, and after three rounds it names all.
-/

namespace CallEdits.Command

/-- The sources at some sites, and the places of their backups. -/
def sourcePaths (store : Store) (sites : List Location) : List Path :=
  sites.flatMap fun site =>
    let target := store.resolve site.path
    target :: (target.extend? ".bak".toList).toList

/-- The files that settings lead to. -/
def settingsPaths (disk : Disk) (s : Settings) : List Path :=
  Path.ofText s.reportPath :: match loadReport disk s with
    | (.ok sites, _) => sourcePaths s.store sites
    | (.error _, _) => []

/-- **The files that a command looks at**, as far as the disk tells. -/
def wanted (words : List Text) (disk : Disk) : List Path :=
  match Flags.parse words with
  | .error _ => []
  | .ok f =>
    (f.configPath?.map Path.ofText).toList ++ match loadSettings disk f with
      | .ok s => settingsPaths disk s
      | .error _ => []

/-- The entries of `new` that are not in `old`. -/
def written (old new : Disk) : List (List Text × Entry) :=
  new.entries.filter fun entry => old.get? entry.1 ≠ some entry.2

end CallEdits.Command
