/-
The files of a bare machine: the usual directories, and the programs that every
such machine brings along.
-/
import FolderScript.Machine.Shell.Tools

namespace FolderScript

namespace FileSystem

/-- The position that a text spells, names divided by separators. -/
def position (text : String) : Position :=
  (Path.splitSlash (Utf8.encode text)).filter fun name => name ≠ []

/-- The directories of a bare machine. -/
def standardDirectories : List String :=
  ["boot", "dev", "dev/pts", "dev/shm", "etc", "home", "media", "mnt", "opt", "proc",
    "proc/self", "proc/self/fd", "root", "run", "srv", "sys", "tmp", "usr", "usr/bin",
    "usr/include", "usr/lib", "usr/lib64", "usr/local", "usr/local/bin", "usr/local/lib",
    "usr/sbin", "usr/share", "usr/src", "var", "var/cache", "var/lib", "var/log", "var/tmp"]

/-- The programs of a bare machine. -/
def standardPrograms : List String := ["sh", "dash", "bash"] ++ Shell.Tools.names

/-- How many open files of a process have a place of their own. -/
def openFiles : Nat := 64

/-- The devices of a bare machine. -/
def standardDevices : List (String × Device) :=
  [("dev/null", .null), ("dev/zero", .zero), ("dev/full", .full), ("dev/random", .zero),
    ("dev/urandom", .zero), ("dev/tty", .terminal)] ++
  (List.range openFiles).map fun number =>
    ("proc/self/fd/" ++ String.ofList (Nat.toDigits 10 number), .descriptor number)

/-- The links of a bare machine. -/
def standardLinks : List (String × String) :=
  [("bin", "usr/bin"), ("lib", "usr/lib"), ("lib64", "usr/lib64"), ("sbin", "usr/sbin"),
    ("dev/fd", "/proc/self/fd"), ("dev/stdin", "/proc/self/fd/0"),
    ("dev/stdout", "/proc/self/fd/1"), ("dev/stderr", "/proc/self/fd/2"), ("var/run", "/run")]

/-- The texts of a bare machine. -/
def standardTexts : List (String × String) :=
  [("etc/passwd", "root:x:0:0:root:/root:/bin/bash\n"), ("etc/group", "root:x:0:\n"),
    ("etc/shadow", "root:*:19000:0:99999:7:::\n"), ("etc/hosts", "127.0.0.1\tlocalhost\n"),
    ("etc/hostname", "localhost\n"), ("etc/resolv.conf", ""), ("etc/fstab", ""),
    ("etc/os-release", "ID=debian\n"), ("etc/debian_version", "12.0\n"),
    ("etc/profile", ""), ("etc/shells", "/bin/sh\n"), ("etc/nsswitch.conf", "")]

/-- Permissions that differ from the usual ones. -/
def standardModes : List (String × Nat) :=
  [("root", 0o700), ("tmp", 0o1777), ("var/tmp", 0o1777), ("dev/shm", 0o1777),
    ("etc/shadow", 0o640)]

/-- The files of a bare machine. -/
def standard : FileSystem :=
  let directories := standardDirectories.map fun text => (text, Entry.directory)
  let programs := standardPrograms.map fun name => ("usr/bin/" ++ name, Entry.program name)
  let devices := standardDevices.map fun (text, kind) => (text, Entry.device kind)
  let links := standardLinks.map fun (text, target) => (text, Entry.link (Utf8.encode target))
  let texts := standardTexts.map fun (text, content) =>
    (text, Entry.file (Utf8.encode content))
  let all := directories ++ programs ++ devices ++ links ++ texts
  ⟨all.zipIdx.map fun ((text, entry), index) =>
    (position text,
      { entry := entry
        mode := (List.lookup text standardModes).getD (usualMode entry)
        mine := false
        modified := beginning
        identity := (0, index + 1) })⟩

end FileSystem

end FolderScript
