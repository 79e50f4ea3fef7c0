/-!
# Installed programs

The programs of a base system. Not all of them can be carried out here; those that cannot are
still found by whoever looks for them.
-/

namespace Testbed.Shell

/-- The programs of a base system by name. -/
def installed : List String :=
  ["[", "arch", "awk", "b2sum", "base32", "base64", "basename", "bash", "cat", "chgrp", "chmod",
   "chown", "chroot", "cksum", "comm", "cp", "csplit", "cut", "dash", "date", "dd", "df", "diff",
   "dir", "dircolors", "dirname", "du", "echo", "egrep", "env", "expand", "expr", "factor", "false",
   "fgrep", "find", "fmt", "fold", "free", "getopt", "grep", "groups", "gunzip", "gzip", "head",
   "hostid", "hostname", "id", "install", "join", "kill", "link", "ln", "login", "logname", "ls",
   "mawk", "md5sum", "mkdir", "mkfifo", "mknod", "mktemp", "more", "mount", "mv", "nice", "nl",
   "nohup", "nproc", "numfmt", "od", "paste", "pathchk", "perl", "pgrep", "pinky", "pkill", "pr",
   "printenv", "printf", "ps", "ptx", "pwd", "readlink", "realpath", "rev", "rm", "rmdir", "sed",
   "seq", "sh", "sha1sum", "sha256sum", "sha512sum", "shred", "shuf", "sleep", "sort", "split",
   "stat", "stdbuf", "stty", "su", "sum", "sync", "tac", "tail", "tar", "tee", "test", "timeout",
   "top", "touch", "tr", "true", "truncate", "tsort", "tty", "umount", "uname", "unexpand", "uniq",
   "unlink", "uptime", "users", "vdir", "wc", "which", "who", "whoami", "xargs", "yes", "zcat"]

/-- The directories in which programs lie; the first is where they are found. -/
def programDirectories : List String := ["/usr/bin/", "/bin/"]

/-- The directories of a base system, whose paths can be named but not run. -/
def systemDirectories : List String :=
  ["/", "/bin", "/dev", "/etc", "/home", "/lib", "/proc", "/root", "/sys", "/tmp", "/usr",
   "/usr/bin", "/usr/lib", "/var"]

/-- The path at which a program of a name is found; a name with a slash is a path itself. -/
def programPath? (name : String) : Option String :=
  if name.toList.contains '/' then
    let isHere (directory : String) : Bool :=
      installed.any fun program => directory ++ program = name
    if programDirectories.any isHere then some name else none
  else if installed.contains name then programDirectories.head?.map (· ++ name)
  else none

/-- Whether a program is installed. -/
def isInstalled (name : String) : Bool := (programPath? name).isSome

end Testbed.Shell
