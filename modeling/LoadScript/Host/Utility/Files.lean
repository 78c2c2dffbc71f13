import LoadScript.Host.Utility.Dates
import LoadScript.Text.Sorted

set_option autoImplicit false

namespace LoadScript.Utility

/-- Goes through operands; the status is one if something goes wrong with any of them. -/
def forOperands {α : Type} (operands : List α) (f : α → Act Bool) : Act Nat := do
  let mut status := 0
  for operand in operands do
    if !(← f operand) then status := 1
  return status

def textOf (path : Octets) : String := Octets.toText path

def pathIn (dir name : Octets) : Octets :=
  if dir.getLast? = some '/' then dir ++ name else dir ++ '/' :: name

def withoutSlashes (path : Octets) : Octets :=
  match path.reverse.dropWhile (· == '/') with
  | [] => path.take 1
  | kept => kept.reverse

def lastName (path : Octets) : Octets :=
  let path := withoutSlashes path
  match (path.reverse.takeWhile (· != '/')).reverse with
  | [] => path
  | name => name

/-! ## Names -/

/-- A name without an ending, unless nothing is left of it. -/
def withoutEnding (ending name : Octets) : Octets :=
  if ending.isSuffixOf name && ending.length < name.length then
    name.take (name.length - ending.length)
  else name

def basename : Utility := fun i => do
  let s ← i.select ⟨"az", "s", "", [("multiple", 'a'), ("suffix", 's'), ("zero", 'z')], false⟩ 1
  let finish := if s.has 'z' then [Char.ofNat 0] else ['\n']
  let several := s.has 'a' || s.has 's'
  match s.operands with
  | [] => i.misused "missing operand".toList 1
  | first :: rest =>
    if several then
      let ending := (s.value? 's').getD []
      i.write (s.operands.flatMap fun path => withoutEnding ending (lastName path) ++ finish) 1
      return 0
    else
      match rest with
      | _ :: extra :: _ => i.misused ("extra operand ".toList ++ quoteName extra) 1
      | _ =>
        i.write (withoutEnding (rest.headD []) (lastName first) ++ finish) 1
        return 0

def directoryOf (path : Octets) : Octets :=
  let above := ((path.reverse.dropWhile (· == '/')).dropWhile (· != '/')).dropWhile (· == '/')
  match above.reverse with
  | [] => if path.head? = some '/' then ['/'] else ['.']
  | dir => dir

def dirname : Utility := fun i => do
  let s ← i.select ⟨"z", "", "", [("zero", 'z')], true⟩ 1
  if s.operands.isEmpty then i.misused "missing operand".toList 1
  else
    let finish := if s.has 'z' then [Char.ofNat 0] else ['\n']
    i.write (s.operands.flatMap fun path => directoryOf path ++ finish) 1
    return 0

def pathOf (l : Location) : Octets := '/' :: Octets.ofText ("/".intercalate l)

def pwd : Utility := fun i => do
  i.writeLine (pathOf (← Act.look fun v => v.workingDir))
  return 0

/-- Where a path leads; only its last name need not exist. -/
def resolved (v : Volume) (path : Octets) : Except FileFault Location :=
  match v.locate (textOf path) with
  | .ok l => .ok l
  | .error .notFound => v.place (textOf (withoutSlashes path))
  | .error fault => .error fault

def realpath : Utility := fun i => do
  let s ← i.select ⟨"eEmqsz", "", "", [("canonicalize-existing", 'e')], true⟩ 1
  if s.operands.isEmpty then i.misused "missing operand".toList 1
  else
    forOperands s.operands fun path => do
      match ← Act.look fun v => if s.has 'e' then v.locate (textOf path) else resolved v path with
      | .ok l => do
        i.writeLine (pathOf l)
        return true
      | .error fault => do
        if !s.has 'q' then i.complainOf path fault
        return false

def readlink : Utility := fun i => do
  let s ← i.select ⟨"femnqsvz", "", "", [("canonicalize", 'f')], true⟩ 1
  if s.operands.isEmpty then i.misused "missing operand".toList 1
  else
    forOperands s.operands fun path => do
      let shown ← Act.look fun v =>
        if s.has 'f' || s.has 'e' || s.has 'm' then (resolved v path).toOption.map pathOf
        else (v.locateName (textOf path)).toOption.bind fun l =>
          match v.lookup l with
          | some (.link target) => some (Octets.ofText target)
          | _ => none
      match shown with
      | some text => do
        i.write (text ++ if s.has 'n' then [] else ['\n']) 1
        return true
      | none => return false

/-! ## Making and removing -/

/-- The directories above a path and the path itself, from the top. -/
def upwards (path : Octets) : List Octets :=
  ((Path.ancestors path.length (textOf path)).reverse.filter fun p => p ≠ "" && p ≠ "/").map
    Octets.ofText

def mkdir : Utility := fun i => do
  let s ← i.select ⟨"pv", "m", "Z",
    [("parents", 'p'), ("verbose", 'v'), ("mode", 'm'), ("context", 'Z')], true⟩ 1
  let make := fun (path : Octets) => do
    match ← Act.change fun v => v.makeDirectory (textOf path) with
    | .ok () => do
      if s.has 'v' then
        i.writeLine (i.name ++ ": created directory ".toList ++ quoteName path)
      return none
    | .error fault => return some fault
  let refuse := fun (path : Octets) (fault : FileFault) => do
    i.complain ("cannot create directory ".toList ++ quoteName path ++ ": ".toList ++
      fault.message.toList)
    return false
  if s.operands.isEmpty then i.misused "missing operand".toList 1
  else
    forOperands s.operands fun path => do
      if s.has 'p' then
        for dir in upwards path do
          match ← make dir with
          | none => pure ()
          | some fault =>
            if !(← Act.look fun v => v.isDirectory (textOf dir)) then
              let blocks := fault = .alreadyExists && dir ≠ withoutSlashes path
              return ← refuse dir (if blocks then .notDirectory else fault)
        return true
      else
        match ← make path with
        | none => return true
        | some fault => refuse path fault

def rmdir : Utility := fun i => do
  let s ← i.select ⟨"pv", "", "", [("parents", 'p'), ("verbose", 'v')], true⟩ 1
  if s.operands.isEmpty then i.misused "missing operand".toList 1
  else
    forOperands s.operands fun path => do
      let dirs := if s.has 'p' then (upwards path).reverse else [path]
      for dir in dirs do
        if s.has 'v' then
          i.writeLine (i.name ++ ": removing directory, ".toList ++ quoteName dir)
        match ← Act.change fun v => v.removeDirectory (textOf dir) with
        | .ok () => pure ()
        | .error fault => do
          let noun := if dir = path then "" else "directory "
          i.complain ("failed to remove ".toList ++ noun.toList ++ quoteName dir ++ ": ".toList ++
            fault.message.toList)
          return false
      return true

def touch : Utility := fun i => do
  let s ← i.select ⟨"acfhm", "drt", "",
    [("no-create", 'c'), ("date", 'd'), ("reference", 'r'), ("time", 't')], true⟩ 1
  if s.operands.isEmpty then i.misused "missing file operand".toList 1
  else
    forOperands s.operands fun path => do
      let isThere ← Act.look fun v => (v.entry? (textOf path)).isSome
      if isThere || s.has 'c' then return true
      else
        match ← Act.change fun v => v.writeFile (textOf path) ByteArray.empty with
        | .ok () => return true
        | .error fault => do
          let verb := if path.getLast? = some '/' then "setting times of " else "cannot touch "
          let fault := if path.getLast? = some '/' then .notFound else fault
          i.complain (verb.toList ++ quoteName path ++ ": ".toList ++ fault.message.toList)
          return false

/-- What stands under a path, deepest first. -/
def everythingIn (v : Volume) : Nat → Octets → List Octets
  | 0, path => [path]
  | fuel + 1, path =>
    match v.locateName (textOf path) with
    | .ok l =>
      if (v.lookup l).any Entry.isDirectory then
        (Text.sort (v.children l)).flatMap (fun name =>
          everythingIn v fuel (pathIn path (Octets.ofText name))) ++ [path]
      else [path]
    | .error _ => [path]

def removeOne (v : Volume) (path : Octets) : Except FileFault Volume :=
  match v.removeFile (textOf path) with
  | .error .isDirectory => v.removeDirectory (textOf path)
  | result => result

def rm : Utility := fun i => do
  let s ← i.select ⟨"dfirRvI", "", "",
    [("force", 'f'), ("recursive", 'r'), ("dir", 'd'), ("verbose", 'v'), ("interactive", 'i')],
    true⟩ 1
  let force := s.last? "fi" = some 'f'
  let deep := s.has 'r' || s.has 'R'
  let refuse := fun (path : Octets) (fault : FileFault) => do
    i.complain ("cannot remove ".toList ++ quoteName path ++ ": ".toList ++ fault.message.toList)
    return false
  let remove := fun (path : Octets) => do
    let isDirectory ← Act.look fun v => v.isDirectory (textOf path)
    match ← Act.change fun v => removeOne v path with
    | .ok () => do
      if s.has 'v' then
        let noun := if isDirectory then "removed directory " else "removed "
        i.writeLine (noun.toList ++ quoteName path)
      return true
    | .error fault => refuse path fault
  if s.operands.isEmpty then
    if force then return 0 else i.misused "missing operand".toList 1
  else
    forOperands s.operands fun path => do
      let name := lastName path
      match ← Act.look fun v => (v.locateName (textOf path)).map v.lookup with
      | .error fault => if force && fault = .notFound then return true else refuse path fault
      | .ok entry =>
        if entry.any Entry.isDirectory then
          if !deep && !s.has 'd' then refuse path .isDirectory
          else if name = ['.'] || name = ['.', '.'] then do
            i.complain ("refusing to remove '.' or '..' directory: skipping ".toList ++
              quoteName path)
            return false
          else if deep then do
            let paths ← Act.look fun v => everythingIn v 1000 path
            let mut fine := true
            for path in paths do
              if !(← remove path) then fine := false
            return fine
          else remove path
        else remove path

/-! ## Copying and moving -/

def readEntry (path : Octets) : Act (Except FileFault (Location × Entry)) :=
  Act.look fun v => do
    let l ← v.locate (textOf path)
    match v.lookup l with
    | some e => return (l, e)
    | none => .error .notFound

def treeOf (v : Volume) (l : Location) : List (Location × Entry) :=
  (v.listing.filter fun e => l.isPrefixOf e.1 && e.1 ≠ l).mergeSort fun a b =>
    a.1.length ≤ b.1.length

def copyTree (source target : Octets) : Act (Except FileFault Unit) :=
  Act.change fun v => do
    let old ← v.locate (textOf source)
    let v ← if v.isDirectory (textOf target) then pure v else v.makeDirectory (textOf target)
    let new ← v.locate (textOf target)
    return (treeOf v old).foldl (fun w (l, e) => w.set (new ++ l.drop old.length) e) v

def copyFile (content : ByteArray) (executable : Bool) (target : Octets) :
    Act (Except FileFault Unit) :=
  Act.change fun v =>
    match v.locate (textOf target) with
    | .ok l =>
      match v.lookup l with
      | some (.file _ mode) => .ok (v.set l (.file content mode))
      | some .directory => .error .isDirectory
      | _ => .ok v
    | .error _ =>
      if target.getLast? = some '/' then .error .notDirectory
      else do
        let v ← v.writeFile (textOf target) content
        let l ← v.locate (textOf target)
        return v.set l (.file content executable)

def destinations (i : Invocation) (s : Selected) : Act (List (Octets × Octets)) := do
  match s.value? 't', s.operands with
  | some dir, operands => return operands.map fun path => (path, pathIn dir (lastName path))
  | none, [] => i.misused "missing file operand".toList 1
  | none, [path] =>
    i.misused ("missing destination file operand after ".toList ++ quoteName path) 1
  | none, operands => do
    let target := operands.getLast?.getD []
    let sources := operands.dropLast
    let isDirectory ← Act.look fun v => v.isDirectory (textOf target)
    if isDirectory && !s.has 'T' then
      return sources.map fun path => (path, pathIn target (lastName path))
    else
      match sources with
      | [source] => return [(source, target)]
      | _ => do
        let isThere ← Act.look fun v => (v.entry? (textOf target)).isSome
        let fault := if isThere then FileFault.notDirectory else .notFound
        i.abandon ("target ".toList ++ quoteName target ++ ": ".toList ++ fault.message.toList) 1

def cp : Utility := fun i => do
  let s ← i.select ⟨"abdfHilLnpPrRsTuvx", "tS", "",
    [("recursive", 'r'), ("force", 'f'), ("verbose", 'v'), ("archive", 'a'),
      ("target-directory", 't'), ("no-target-directory", 'T'), ("no-clobber", 'n')], true⟩ 1
  let deep := s.has 'r' || s.has 'R' || s.has 'a'
  let pairs ← destinations i s
  forOperands pairs fun (source, target) => do
    let refuse := fun (message : Octets) => do
      i.complain message
      return false
    let finish := do
      if s.has 'v' then i.writeLine (quoteName source ++ " -> ".toList ++ quoteName target)
      return true
    match ← readEntry source with
    | .error fault =>
      refuse ("cannot stat ".toList ++ quoteName source ++ ": ".toList ++ fault.message.toList)
    | .ok (old, .directory) =>
      if !deep then refuse ("-r not specified; omitting directory ".toList ++ quoteName source)
      else
        let new ← Act.look fun v => resolved v target
        match new with
        | .ok new =>
          if old.isPrefixOf new then
            refuse ("cannot copy a directory, ".toList ++ quoteName source ++
              ", into itself, ".toList
              ++ quoteName target)
          else
            match ← copyTree source target with
            | .ok () => finish
            | .error .alreadyExists =>
              refuse ("cannot overwrite non-directory ".toList ++ quoteName target ++
                " with directory ".toList ++ quoteName source)
            | .error fault =>
              refuse ("cannot create directory ".toList ++ quoteName target ++ ": ".toList ++
                fault.message.toList)
        | .error fault =>
          refuse ("cannot create directory ".toList ++ quoteName target ++ ": ".toList ++
            fault.message.toList)
    | .ok (old, e) =>
      let same ← Act.look fun v => (v.locate (textOf target)).toOption == some old
      let isThere ← Act.look fun v => (v.entry? (textOf target)).isSome
      if same then
        refuse (quoteName source ++ " and ".toList ++ quoteName target ++
          " are the same file".toList)
      else if s.has 'n' && isThere then return true
      else
        let (content, executable) := match e with
          | .file content executable => (content, executable)
          | _ => (ByteArray.empty, false)
        match ← copyFile content executable target with
        | .ok () => finish
        | .error .isDirectory =>
          refuse ("cannot overwrite directory ".toList ++ quoteName target ++
            " with non-directory".toList)
        | .error fault =>
          refuse ("cannot create regular file ".toList ++ quoteName target ++ ": ".toList ++
            fault.message.toList)

def mv : Utility := fun i => do
  let s ← i.select ⟨"bfinuvT", "tS", "",
    [("force", 'f'), ("verbose", 'v'), ("no-clobber", 'n'), ("target-directory", 't'),
      ("no-target-directory", 'T')], true⟩ 1
  let pairs ← destinations i s
  forOperands pairs fun (source, target) => do
    let refuse := fun (message : Octets) => do
      i.complain message
      return false
    match ← readEntry source with
    | .error fault =>
      refuse ("cannot stat ".toList ++ quoteName source ++ ": ".toList ++ fault.message.toList)
    | .ok (old, e) =>
      let new ← Act.look fun v => v.place (textOf (withoutSlashes target))
      let there ← Act.look fun v => v.entry? (textOf target)
      if new.toOption = some old then
        refuse (quoteName source ++ " and ".toList ++ quoteName target ++
          " are the same file".toList)
      else if s.has 'n' && there.isSome then return true
      else if e.isDirectory && there.any (!·.isDirectory) then
        refuse ("cannot overwrite non-directory ".toList ++ quoteName target ++
          " with directory ".toList ++ quoteName source)
      else if !e.isDirectory && there.any Entry.isDirectory then
        refuse ("cannot overwrite directory ".toList ++ quoteName target ++
          " with non-directory ".toList ++ quoteName source)
      else if e.isDirectory && new.toOption.any old.isPrefixOf then
        refuse ("cannot move ".toList ++ quoteName source ++ " to a subdirectory of itself, ".toList
          ++ quoteName target)
      else
        let path := if e.isDirectory then withoutSlashes target else target
        match ← Act.change fun v => v.rename (textOf (withoutSlashes source)) (textOf path) with
        | .ok () => do
          if s.has 'v' then
            i.writeLine ("renamed ".toList ++ quoteName source ++ " -> ".toList ++ quoteName target)
          return true
        | .error fault =>
          let fault := if path.getLast? = some '/' then .notDirectory else fault
          refuse ("cannot move ".toList ++ quoteName source ++ " to ".toList ++ quoteName target ++
            ": ".toList ++ fault.message.toList)

def linkFile (v : Volume) (source target : Octets) : Except FileFault Volume := do
  let old ← v.locateName (textOf source)
  let new ← v.place (textOf target)
  match v.node? old with
  | some (.directory _) => .error .notPermitted
  | some node => if old = new then return v else return (v.erase new).put new node
  | none => .error .notFound

def linkPath (v : Volume) (source target : Octets) : Except FileFault Volume := do
  let new ← v.place (textOf target)
  return (v.erase new).put new (.link (textOf source))

def ln : Utility := fun i => do
  let s ← i.select ⟨"fnsTvr", "tS", "", [("force", 'f'), ("symbolic", 's')], true⟩ 1
  let s := match s.operands with
    | [path] => { s with operands := [path, lastName path] }
    | _ => s
  let pairs ← destinations i s
  let noun := if s.has 's' then "symbolic link " else "hard link "
  forOperands pairs fun (source, target) => do
    let isThere ← Act.look fun v => (v.entry? (textOf target)).isSome
    if isThere && !s.has 'f' then
      i.complain ("failed to create ".toList ++ noun.toList ++ quoteName target ++
        ": File exists".toList)
      return false
    else
      match ← Act.change fun v =>
          if s.has 's' then linkPath v source target else linkFile v source target with
      | .ok () => return true
      | .error .notPermitted => do
        i.complain (quoteName source ++ ": hard link not allowed for directory".toList)
        return false
      | .error fault => do
        i.complain ("failed to access ".toList ++ quoteName source ++ ": ".toList ++
          fault.message.toList)
        return false

/-! ## Modes -/

/-- Whether a clause of a mode, such as `u+x`, makes a file executable. -/
def applyClause (was : Bool) (clause : Octets) : Option Bool :=
  let rest := clause.dropWhile fun c => "ugoa".toList.contains c
  match rest with
  | sign :: letters =>
    if "+-=".toList.contains sign && letters.all fun c => "rwxXst".toList.contains c then
      let named := letters.contains 'x' || (letters.contains 'X' && was)
      some (match sign with
        | '+' => was || named
        | '-' => was && !named
        | _ => named)
    else none
  | [] => none

def clausesOf (mode : Octets) : List Octets :=
  ((String.ofList mode).splitOn ",").map String.toList

def applyMode (mode : Octets) (was : Bool) : Option Bool :=
  if mode.all (fun c => '0' ≤ c && c ≤ '7') && mode.length ≤ 4 && !mode.isEmpty then
    some (mode.any fun c => c.toNat % 2 = 1)
  else
    (clausesOf mode).foldl (fun was clause => was.bind fun was => applyClause was clause) (some was)

def isDashMode (word : Octets) : Bool :=
  word.head? = some '-' && 1 < word.length && word.tail.all fun c => "rwxXst".toList.contains c

def chmod : Utility := fun i => do
  let dashed := i.arguments.find? isDashMode
  let rest := { i with arguments := i.arguments.filter fun word => !isDashMode word }
  let s ← rest.select ⟨"Rcfv", "r", "",
    [("recursive", 'R'), ("reference", 'r'), ("verbose", 'v'), ("changes", 'c')], true⟩ 1
  let likeFile ← match s.value? 'r' with
    | some path => do
      let executable ← Act.look fun v => (v.entry? (textOf path)).any Entry.isExecutable
      pure (some (if executable then "755".toList else "644".toList))
    | none => pure none
  let (mode, operands) := match dashed <|> likeFile, s.operands with
    | some mode, operands => (some mode, operands)
    | none, mode :: operands => (some mode, operands)
    | none, [] => (none, [])
  match mode, operands with
  | none, _ => i.misused "missing operand".toList 1
  | some mode, [] => i.misused ("missing operand after ".toList ++ quoteName mode) 1
  | some mode, operands =>
    if (applyMode mode false).isNone then i.misused ("invalid mode: ".toList ++ quoteName mode) 1
    else
      forOperands operands fun path => do
        match ← readEntry path with
        | .error fault => do
          i.complain ("cannot access ".toList ++ quoteName path ++ ": ".toList ++
            fault.message.toList)
          return false
        | .ok (l, e) => do
          let changed := fun (e : Entry) => match e with
            | .file content was => Entry.file content ((applyMode mode was).getD was)
            | e => e
          let _ ← Act.change fun v =>
            let v := v.set l (changed e)
            .ok (if s.has 'R' then
              (treeOf v l).foldl (fun w (l, e) => w.set l (changed e)) v
            else v)
          return true

/-! ## Temporary files -/

/-- Letters for the place of a temporary name, which differ from number to number. -/
def temporaryLetters (count number : Nat) : Octets :=
  let digits := Nat.toDigits 16 (number * 7919 + 2654435)
  (List.replicate count 'k' ++ digits).reverse.take count

def freeName (v : Volume) (front back : Octets) (count : Nat) : Nat → Nat → Octets
  | 0, number => front ++ temporaryLetters count number ++ back
  | fuel + 1, number =>
    let path := front ++ temporaryLetters count number ++ back
    if (v.entry? (textOf path)).isSome then freeName v front back count fuel (number + 1) else path

def mktemp : Utility := fun i => do
  let s ← i.select ⟨"dqtu", "p", "",
    [("directory", 'd'), ("dry-run", 'u'), ("tmpdir", 'p'), ("quiet", 'q')], true⟩ 1
  let home := (s.value? 'p').getD (((i.bindings.find? (·.1 = "TMPDIR")).map (·.2)).getD
    "/tmp".toList)
  let template := s.operands.headD "tmp.XXXXXXXXXX".toList
  let back := template.reverse.takeWhile (· != 'X') |>.reverse
  let marks := (template.reverse.drop back.length).takeWhile (· == 'X')
  if marks.length < 3 then
    i.abandon ("too few X's in template ".toList ++ quoteName template) 1
  else
    let front := template.take (template.length - back.length - marks.length)
    let front := if s.operands.isEmpty || s.has 't' || s.has 'p' then pathIn home front else front
    let path ← Act.look fun v => freeName v front back marks.length 1000 1
    if s.has 'u' then
      i.writeLine path
      return 0
    else
      match ← Act.change fun v =>
        if s.has 'd' then v.makeDirectory (textOf path)
        else v.writeFile (textOf path) ByteArray.empty with
      | .ok () => do
        i.writeLine path
        return 0
      | .error fault => do
        let noun := if s.has 'd' then "directory" else "file"
        i.abandon ("failed to create ".toList ++ noun.toList ++ " via template ".toList ++
          quoteName (front ++ marks ++ back) ++ ": ".toList ++ fault.message.toList) 1

/-! ## Listing -/

def modeOf (e : Entry) : Nat := if e.isExecutable then 493 else 420

def modeText (e : Entry) : Octets :=
  let letters := fun (shift : Nat) =>
    let bits := modeOf e / shift % 8
    [if bits / 4 % 2 = 1 then 'r' else '-', if bits / 2 % 2 = 1 then 'w' else '-',
      if bits % 2 = 1 then 'x' else '-']
  (match e with
    | .directory => 'd'
    | .device _ => 'c'
    | .link _ => 'l'
    | .file _ _ => '-') :: (letters 64 ++ letters 8 ++ letters 1)

def sizeOfEntry : Entry → Nat
  | .file content _ => content.size
  | _ => 4096

def innerDirectories (v : Volume) (l : Location) : Nat :=
  ((v.children l).filter fun name => (v.lookup (l ++ [name])).any Entry.isDirectory).length

def linkCount (v : Volume) (l : Location) (e : Entry) : Nat :=
  if e.isDirectory then 2 + innerDirectories v l else 1

def showEntry (s : Selected) (name : Octets) (e : Entry) : Octets :=
  let mark := match e with
    | .directory => if s.has 'F' || s.has 'p' then ['/'] else []
    | .file _ true => if s.has 'F' then ['*'] else []
    | _ => []
  name ++ mark

def inListingOrder (s : Selected) (names : List (Octets × Entry)) : List (Octets × Entry) :=
  let keys := Text.sort (names.map fun n => String.ofList n.1)
  let sorted := keys.filterMap fun key => names.find? fun n => n.1 = key.toList
  let sized := if s.has 'S' then
      sorted.mergeSort fun a b =>
        let size := fun (e : Entry) => match e with
          | .file content _ => content.size
          | _ => 4096
        size b.2 ≤ size a.2
    else sorted
  if s.has 'r' then sized.reverse else sized

def blocksOf (e : Entry) : Nat := (sizeOfEntry e + 4095) / 4096 * 4

def longLines (s : Selected) (v : Volume) (date : Octets) (l : Location)
    (names : List (Octets × Entry)) : Octets :=
  let rows := names.map fun (name, e) =>
    let place := if name = ['.'] then l else if name = ['.', '.'] then l.dropLast
      else l ++ [textOf name]
    (Octets.ofNat (linkCount v place e), Octets.ofNat (sizeOfEntry e), name, e)
  let width := fun (text : Octets × Octets × Octets × Entry → Octets) =>
    rows.foldl (fun n row => Nat.max n (text row).length) 0
  rows.flatMap fun row =>
    modeText row.2.2.2 ++ [' '] ++ padLeft (width (·.1)) row.1 ++ " root root ".toList ++
      padLeft (width (·.2.1)) row.2.1 ++ [' '] ++ date ++ [' '] ++
      showEntry s row.2.2.1 row.2.2.2 ++ ['\n']

def showNames (s : Selected) (v : Volume) (date : Octets) (l : Location)
    (names : List (Octets × Entry)) : Octets :=
  let shown := names.map fun (name, e) => showEntry s name e
  match s.last? "1Cmxl" with
  | some 'l' => longLines s v date l names
  | some 'm' => if shown.isEmpty then [] else (", ".toList).intercalate shown ++ ['\n']
  | some 'C' | some 'x' =>
    if shown.isEmpty then [] else ("  ".toList).intercalate shown ++ ['\n']
  | _ => shown.flatMap (· ++ ['\n'])

def directoryNames (s : Selected) (v : Volume) (l : Location) : List (Octets × Entry) :=
  let names := (v.children l).filterMap fun name =>
    (v.lookup (l ++ [name])).map fun e => (Octets.ofText name, e)
  let shown := if s.has 'a' || s.has 'A' then names
    else names.filter fun n => n.1.head? ≠ some '.'
  let dots := if s.has 'a' then
    [(['.'], Entry.directory), (['.', '.'], Entry.directory)] else []
  inListingOrder s (dots ++ shown)

def listDirectories (s : Selected) (v : Volume) (date : Octets) :
    Nat → Octets → Location → List (Octets × Octets)
  | 0, _, _ => []
  | fuel + 1, path, l =>
    let names := directoryNames s v l
    let deeper := if s.has 'R' then
        (names.filter fun n => n.2.isDirectory && n.1 ≠ ['.'] && n.1 ≠ ['.', '.']).flatMap fun n =>
          listDirectories s v date fuel (pathIn path n.1) (l ++ [textOf n.1])
      else []
    let total := if s.last? "1Cmxl" = some 'l' then
        "total ".toList ++ Octets.ofNat (names.foldl (fun n e => n + blocksOf e.2) 0) ++ ['\n']
      else []
    (path, total ++ showNames s v date l names) :: deeper

def ls : Utility := fun i => do
  let s ← i.select ⟨"1aAbBcCdfFgGhHiklLmnNopqQrRsStuUvxXZ", "ITw", "",
    [("all", 'a'), ("almost-all", 'A'), ("directory", 'd'), ("recursive", 'R'), ("reverse", 'r'),
      ("classify", 'F')], true⟩ 2
  let operands := if s.operands.isEmpty then [['.']] else s.operands
  let mut status := 0
  let mut files : List (Octets × Entry) := []
  let mut dirs : List (Octets × Location) := []
  for path in operands do
    match ← readEntry path with
    | .error fault => do
      i.complain ("cannot access ".toList ++ quoteName path ++ ": ".toList ++ fault.message.toList)
      status := 2
    | .ok (l, e) =>
      if e.isDirectory && !s.has 'd' then dirs := dirs ++ [(path, l)]
      else files := files ++ [(path, e)]
  let v ← Act.look id
  let date ← dateNow "%b %e %H:%M"
  let first := showNames s v date v.workingDir (inListingOrder s files)
  let names := Text.sort (dirs.map fun d => String.ofList d.1)
  let sorted := (if s.has 'r' then names.reverse else names).filterMap fun key =>
    dirs.find? fun d => d.1 = key.toList
  let listings := sorted.flatMap fun (path, l) => listDirectories s v date 1000 path l
  let headed := 1 < operands.length || s.has 'R'
  let blocks := listings.map fun (path, names) =>
    if headed then path ++ ":\n".toList ++ names else names
  let blocks := if files.isEmpty then blocks else first :: blocks
  i.write (['\n'].intercalate blocks) 2
  return status

/-! ## Copies of the input -/

def tee : Utility := fun i => do
  let s ← i.select ⟨"aip", "", "", [("append", 'a'), ("ignore-interrupts", 'i')], true⟩ 1
  let mut status := 0
  let mut descriptors : List Nat := []
  for path in s.operands do
    match ← Act.call (.openFile (textOf path) (if s.has 'a' then .appending else .writing)) with
    | .ok descriptor => descriptors := descriptors ++ [descriptor]
    | .error fault => do
      i.complainOf path fault
      status := 1
  let targets := descriptors
  let _ ← Act.eachBlock 0 (fun () text => do
    i.write text 1
    for descriptor in targets do
      let _ ← Act.call (.write descriptor text)
    return ((), true)) Act.often ()
  return status

end LoadScript.Utility
