import Shorthand.File.Tree
set_option autoImplicit false

namespace Shorthand.FileTree

def standardDirectories : List String :=
  ["/boot", "/dev", "/etc", "/home", "/media", "/mnt", "/opt", "/proc", "/root", "/run", "/srv",
    "/sys", "/tmp", "/usr/bin", "/usr/lib", "/usr/lib64", "/usr/local/bin", "/usr/local/lib",
    "/usr/local/sbin", "/usr/sbin",
    "/usr/share", "/var/lib", "/var/log", "/var/tmp"]

def standardLinks : List (String × String) :=
  [("/bin", "usr/bin"), ("/lib", "usr/lib"), ("/lib64", "usr/lib64"), ("/sbin", "usr/sbin"),
    ("/usr/bin/sh", "dash")]

def standardDevices : List (String × Device) :=
  [("/dev/full", .full), ("/dev/null", .null), ("/dev/tty", .terminal), ("/dev/zero", .zero),
    ("/dev/stdin", .descriptor 0), ("/dev/stdout", .descriptor 1),
      ("/dev/stderr", .descriptor 2)] ++
    (List.range 10).map fun n => ("/dev/fd/" ++ toString n, .descriptor n)

def standardPrograms : List String :=
  ["[", "cat", "chmod", "cp", "cut", "dash", "date", "echo", "env", "false", "find", "grep", "head",
    "ls", "mkdir", "mv", "printf", "pwd", "rm", "sed", "sleep", "sort", "tail", "test", "touch",
    "tr", "true",
      "uname", "wc"]

def standardUsers : List String :=
  ["root:x:0:0:root:/root:/bin/bash", "daemon:x:1:1:daemon:/usr/sbin:/usr/sbin/nologin",
    "bin:x:2:2:bin:/bin:/usr/sbin/nologin", "sys:x:3:3:sys:/dev:/usr/sbin/nologin",
    "sync:x:4:65534:sync:/bin:/bin/sync", "games:x:5:60:games:/usr/games:/usr/sbin/nologin",
    "man:x:6:12:man:/var/cache/man:/usr/sbin/nologin",
    "lp:x:7:7:lp:/var/spool/lpd:/usr/sbin/nologin", "mail:x:8:8:mail:/var/mail:/usr/sbin/nologin",
    "news:x:9:9:news:/var/spool/news:/usr/sbin/nologin",
    "uucp:x:10:10:uucp:/var/spool/uucp:/usr/sbin/nologin",
    "proxy:x:13:13:proxy:/bin:/usr/sbin/nologin",
    "www-data:x:33:33:www-data:/var/www:/usr/sbin/nologin",
    "backup:x:34:34:backup:/var/backups:/usr/sbin/nologin",
    "list:x:38:38:Mailing List Manager:/var/list:/usr/sbin/nologin",
    "irc:x:39:39:ircd:/run/ircd:/usr/sbin/nologin",
    "_apt:x:42:65534::/nonexistent:/usr/sbin/nologin",
      "nobody:x:65534:65534:nobody:/nonexistent:/usr/sbin/nologin"]

def standard : FileTree :=
  let t := standardDirectories.foldl (fun (t : FileTree) path => t.add (names path) .directory) {}
  let t := standardLinks.foldl (fun t e => t.add (names e.1) (.link e.2)) t
  let t := standardDevices.foldl (fun t e => t.add (names e.1) (.device e.2)) t
  let t := t.add ["etc", "passwd"] (.regular (String.join (standardUsers.map (· ++ "\n"))).toList 0)
  standardPrograms.foldl (fun t name => t.add ["usr", "bin", name] (.program name)) t

end Shorthand.FileTree
