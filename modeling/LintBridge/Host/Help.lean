import LintBridge.Host.Program
/-!
# What the programs say about themselves

The texts programs write when asked with `--help` or `--version`, and which arguments they take
as such a question.
-/

namespace LintBridge.Host

/-! ## Usage texts -/

def basenameHelp : String :=
  "Usage: $0 NAME [SUFFIX]\n" ++
  "  or:  $0 OPTION... NAME...\n" ++
  "Print NAME with any leading directory components removed.\n" ++
  "If specified, also remove a trailing SUFFIX.\n" ++
  "\n" ++
  "Mandatory arguments to long options are mandatory for short options too.\n" ++
  "  -a, --multiple       support multiple arguments and treat each as a NAME\n" ++
  "  -s, --suffix=SUFFIX  remove a trailing SUFFIX; implies -a\n" ++
  "  -z, --zero           end each output line with NUL, not newline\n" ++
  "      --help        display this help and exit\n" ++
  "      --version     output version information and exit\n" ++
  "\n" ++
  "Examples:\n" ++
  "  $0 /usr/bin/sort          -> \"sort\"\n" ++
  "  $0 include/stdio.h .h     -> \"stdio\"\n" ++
  "  $0 -s .h include/stdio.h  -> \"stdio\"\n" ++
  "  $0 -a any/str1 any/str2   -> \"str1\" followed by \"str2\"\n" ++
  "\n"

def catHelp : String :=
  "Usage: $0 [OPTION]... [FILE]...\n" ++
  "Concatenate FILE(s) to standard output.\n" ++
  "\n" ++
  "With no FILE, or when FILE is -, read standard input.\n" ++
  "\n" ++
  "  -A, --show-all           equivalent to -vET\n" ++
  "  -b, --number-nonblank    number nonempty output lines, overrides -n\n" ++
  "  -e                       equivalent to -vE\n" ++
  "  -E, --show-ends          display $ at end of each line\n" ++
  "  -n, --number             number all output lines\n" ++
  "  -s, --squeeze-blank      suppress repeated empty output lines\n" ++
  "  -t                       equivalent to -vT\n" ++
  "  -T, --show-tabs          display TAB characters as ^I\n" ++
  "  -u                       (ignored)\n" ++
  "  -v, --show-nonprinting   use ^ and M- notation, except for LFD and TAB\n" ++
  "      --help        display this help and exit\n" ++
  "      --version     output version information and exit\n" ++
  "\n" ++
  "Examples:\n" ++
  "  $0 f - g  Output f's contents, then standard input, then g's contents.\n" ++
  "  $0        Copy standard input to standard output.\n" ++
  "\n"

def dirnameHelp : String :=
  "Usage: $0 [OPTION] NAME...\n" ++
  "Output each NAME with its last non-slash component and trailing slashes\n" ++
  "removed; if NAME contains no /'s, output '.' (meaning the current directory).\n" ++
  "\n" ++
  "  -z, --zero     end each output line with NUL, not newline\n" ++
  "      --help        display this help and exit\n" ++
  "      --version     output version information and exit\n" ++
  "\n" ++
  "Examples:\n" ++
  "  $0 /usr/bin/          -> \"/usr\"\n" ++
  "  $0 dir1/str dir2/str  -> \"dir1\" followed by \"dir2\"\n" ++
  "  $0 stdio.h            -> \".\"\n" ++
  "\n"

def echoHelp : String :=
  "Usage: $0 [SHORT-OPTION]... [STRING]...\n" ++
  "  or:  $0 LONG-OPTION\n" ++
  "Echo the STRING(s) to standard output.\n" ++
  "\n" ++
  "  -n             do not output the trailing newline\n" ++
  "  -e             enable interpretation of backslash escapes\n" ++
  "  -E             disable interpretation of backslash escapes (default)\n" ++
  "      --help        display this help and exit\n" ++
  "      --version     output version information and exit\n" ++
  "\n" ++
  "If -e is in effect, the following sequences are recognized:\n" ++
  "\n" ++
  "  \\\\      backslash\n" ++
  "  \\a      alert (BEL)\n" ++
  "  \\b      backspace\n" ++
  "  \\c      produce no further output\n" ++
  "  \\e      escape\n" ++
  "  \\f      form feed\n" ++
  "  \\n      new line\n" ++
  "  \\r      carriage return\n" ++
  "  \\t      horizontal tab\n" ++
  "  \\v      vertical tab\n" ++
  "  \\0NNN   byte with octal value NNN (1 to 3 digits)\n" ++
  "  \\xHH    byte with hexadecimal value HH (1 to 2 digits)\n" ++
  "\n" ++
  "NOTE: your shell may have its own version of echo, which usually supersedes\n" ++
  "the version described here.  Please refer to your shell's documentation\n" ++
  "for details about the options it supports.\n"

def envHelp : String :=
  "Usage: $0 [OPTION]... [-] [NAME=VALUE]... [COMMAND [ARG]...]\n" ++
  "Set each NAME to VALUE in the environment and run COMMAND.\n" ++
  "\n" ++
  "Mandatory arguments to long options are mandatory for short options too.\n" ++
  "  -i, --ignore-environment  start with an empty environment\n" ++
  "  -0, --null           end each output line with NUL, not newline\n" ++
  "  -u, --unset=NAME     remove variable from the environment\n" ++
  "  -C, --chdir=DIR      change working directory to DIR\n" ++
  "  -S, --split-string=S  process and split S into separate arguments;\n" ++
  "                        used to pass multiple arguments on shebang lines\n" ++
  "      --block-signal[=SIG]    block delivery of SIG signal(s) to COMMAND\n" ++
  "      --default-signal[=SIG]  reset handling of SIG signal(s) to the default\n" ++
  "      --ignore-signal[=SIG]   set handling of SIG signal(s) to do nothing\n" ++
  "      --list-signal-handling  list non default signal handling to stderr\n" ++
  "  -v, --debug          print verbose information for each processing step\n" ++
  "      --help        display this help and exit\n" ++
  "      --version     output version information and exit\n" ++
  "\n" ++
  "A mere - implies -i.  If no COMMAND, print the resulting environment.\n" ++
  "\n" ++
  "SIG may be a signal name like 'PIPE', or a signal number like '13'.\n" ++
  "Without SIG, all known signals are included.  Multiple signals can be\n" ++
  "comma-separated.  An empty SIG argument is a no-op.\n" ++
  "\n" ++
  "Exit status:\n" ++
  "  125  if the env command itself fails\n" ++
  "  126  if COMMAND is found but cannot be invoked\n" ++
  "  127  if COMMAND cannot be found\n" ++
  "  -    the exit status of COMMAND otherwise\n" ++
  "\n"

def exprHelp : String :=
  "Usage: $0 EXPRESSION\n" ++
  "  or:  $0 OPTION\n" ++
  "\n" ++
  "      --help        display this help and exit\n" ++
  "      --version     output version information and exit\n" ++
  "\n" ++
  "Print the value of EXPRESSION to standard output.  A blank line below\n" ++
  "separates increasing precedence groups.  EXPRESSION may be:\n" ++
  "\n" ++
  "  ARG1 | ARG2       ARG1 if it is neither null nor 0, otherwise ARG2\n" ++
  "\n" ++
  "  ARG1 & ARG2       ARG1 if neither argument is null or 0, otherwise 0\n" ++
  "\n" ++
  "  ARG1 < ARG2       ARG1 is less than ARG2\n" ++
  "  ARG1 <= ARG2      ARG1 is less than or equal to ARG2\n" ++
  "  ARG1 = ARG2       ARG1 is equal to ARG2\n" ++
  "  ARG1 != ARG2      ARG1 is unequal to ARG2\n" ++
  "  ARG1 >= ARG2      ARG1 is greater than or equal to ARG2\n" ++
  "  ARG1 > ARG2       ARG1 is greater than ARG2\n" ++
  "\n" ++
  "  ARG1 + ARG2       arithmetic sum of ARG1 and ARG2\n" ++
  "  ARG1 - ARG2       arithmetic difference of ARG1 and ARG2\n" ++
  "\n" ++
  "  ARG1 * ARG2       arithmetic product of ARG1 and ARG2\n" ++
  "  ARG1 / ARG2       arithmetic quotient of ARG1 divided by ARG2\n" ++
  "  ARG1 % ARG2       arithmetic remainder of ARG1 divided by ARG2\n" ++
  "\n" ++
  "  STRING : REGEXP   anchored pattern match of REGEXP in STRING\n" ++
  "\n" ++
  "  match STRING REGEXP        same as STRING : REGEXP\n" ++
  "  substr STRING POS LENGTH   substring of STRING, POS counted from 1\n" ++
  "  index STRING CHARS         index in STRING where any CHARS is found, or 0\n" ++
  "  length STRING              length of STRING\n" ++
  "  + TOKEN                    interpret TOKEN as a string, even if it is a\n" ++
  "                               keyword like 'match' or an operator like '/'\n" ++
  "\n" ++
  "  ( EXPRESSION )             value of EXPRESSION\n" ++
  "\n" ++
  "Beware that many operators need to be escaped or quoted for shells.\n" ++
  "Comparisons are arithmetic if both ARGs are numbers, else lexicographical.\n" ++
  "Pattern matches return the string matched between \\( and \\) or null; if\n" ++
  "\\( and \\) are not used, they return the number of characters matched or 0.\n" ++
  "\n" ++
  "Exit status is 0 if EXPRESSION is neither null nor 0, 1 if EXPRESSION is null\n" ++
  "or 0, 2 if EXPRESSION is syntactically invalid, and 3 if an error occurred.\n" ++
  "\n"

def falseHelp : String :=
  "Usage: $0 [ignored command line arguments]\n" ++
  "  or:  $0 OPTION\n" ++
  "Exit with a status code indicating failure.\n" ++
  "\n" ++
  "      --help        display this help and exit\n" ++
  "      --version     output version information and exit\n" ++
  "\n" ++
  "NOTE: your shell may have its own version of false, which usually supersedes\n" ++
  "the version described here.  Please refer to your shell's documentation\n" ++
  "for details about the options it supports.\n" ++
  "\n"

def headHelp : String :=
  "Usage: $0 [OPTION]... [FILE]...\n" ++
  "Print the first 10 lines of each FILE to standard output.\n" ++
  "With more than one FILE, precede each with a header giving the file name.\n" ++
  "\n" ++
  "With no FILE, or when FILE is -, read standard input.\n" ++
  "\n" ++
  "Mandatory arguments to long options are mandatory for short options too.\n" ++
  "  -c, --bytes=[-]NUM       print the first NUM bytes of each file;\n" ++
  "                             with the leading '-', print all but the last\n" ++
  "                             NUM bytes of each file\n" ++
  "  -n, --lines=[-]NUM       print the first NUM lines instead of the first 10;\n" ++
  "                             with the leading '-', print all but the last\n" ++
  "                             NUM lines of each file\n" ++
  "  -q, --quiet, --silent    never print headers giving file names\n" ++
  "  -v, --verbose            always print headers giving file names\n" ++
  "  -z, --zero-terminated    line delimiter is NUL, not newline\n" ++
  "      --help        display this help and exit\n" ++
  "      --version     output version information and exit\n" ++
  "\n" ++
  "NUM may have a multiplier suffix:\n" ++
  "b 512, kB 1000, K 1024, MB 1000*1000, M 1024*1024,\n" ++
  "GB 1000*1000*1000, G 1024*1024*1024, and so on for T, P, E, Z, Y.\n" ++
  "Binary prefixes can be used, too: KiB=K, MiB=M, and so on.\n" ++
  "\n"

def lsHelp : String :=
  "Usage: $0 [OPTION]... [FILE]...\n" ++
  "List information about the FILEs (the current directory by default).\n" ++
  "Sort entries alphabetically if none of -cftuvSUX nor --sort is specified.\n" ++
  "\n" ++
  "Mandatory arguments to long options are mandatory for short options too.\n" ++
  "  -a, --all                  do not ignore entries starting with .\n" ++
  "  -A, --almost-all           do not list implied . and ..\n" ++
  "      --author               with -l, print the author of each file\n" ++
  "  -b, --escape               print C-style escapes for nongraphic characters\n" ++
  "      --block-size=SIZE      with -l, scale sizes by SIZE when printing them;\n" ++
  "                             e.g., '--block-size=M'; see SIZE format below\n" ++
  "\n" ++
  "  -B, --ignore-backups       do not list implied entries ending with ~\n" ++
  "  -c                         with -lt: sort by, and show, ctime (time of last\n" ++
  "                             change of file status information);\n" ++
  "                             with -l: show ctime and sort by name;\n" ++
  "                             otherwise: sort by ctime, newest first\n" ++
  "\n" ++
  "  -C                         list entries by columns\n" ++
  "      --color[=WHEN]         color the output WHEN; more info below\n" ++
  "  -d, --directory            list directories themselves, not their contents\n" ++
  "  -D, --dired                generate output designed for Emacs' dired mode\n" ++
  "  -f                         list all entries in directory order\n" ++
  "  -F, --classify[=WHEN]      append indicator (one of */=>@|) to entries WHEN\n" ++
  "      --file-type            likewise, except do not append '*'\n" ++
  "      --format=WORD          across -x, commas -m, horizontal -x, long -l,\n" ++
  "                             single-column -1, verbose -l, vertical -C\n" ++
  "\n" ++
  "      --full-time            like -l --time-style=full-iso\n" ++
  "  -g                         like -l, but do not list owner\n" ++
  "      --group-directories-first\n" ++
  "                             group directories before files;\n" ++
  "                             can be augmented with a --sort option, but any\n" ++
  "                             use of --sort=none (-U) disables grouping\n" ++
  "\n" ++
  "  -G, --no-group             in a long listing, don't print group names\n" ++
  "  -h, --human-readable       with -l and -s, print sizes like 1K 234M 2G etc.\n" ++
  "      --si                   likewise, but use powers of 1000 not 1024\n" ++
  "  -H, --dereference-command-line\n" ++
  "                             follow symbolic links listed on the command line\n" ++
  "      --dereference-command-line-symlink-to-dir\n" ++
  "                             follow each command line symbolic link\n" ++
  "                             that points to a directory\n" ++
  "\n" ++
  "      --hide=PATTERN         do not list implied entries matching shell PATTERN\n" ++
  "                             (overridden by -a or -A)\n" ++
  "\n" ++
  "      --hyperlink[=WHEN]     hyperlink file names WHEN\n" ++
  "      --indicator-style=WORD\n" ++
  "                             append indicator with style WORD to entry names:\n" ++
  "                             none (default), slash (-p),\n" ++
  "                             file-type (--file-type), classify (-F)\n" ++
  "\n" ++
  "  -i, --inode                print the index number of each file\n" ++
  "  -I, --ignore=PATTERN       do not list implied entries matching shell PATTERN\n" ++
  "  -k, --kibibytes            default to 1024-byte blocks for file system usage;\n" ++
  "                             used only with -s and per directory totals\n" ++
  "\n" ++
  "  -l                         use a long listing format\n" ++
  "  -L, --dereference          when showing file information for a symbolic\n" ++
  "                             link, show information for the file the link\n" ++
  "                             references rather than for the link itself\n" ++
  "\n" ++
  "  -m                         fill width with a comma separated list of entries\n" ++
  "  -n, --numeric-uid-gid      like -l, but list numeric user and group IDs\n" ++
  "  -N, --literal              print entry names without quoting\n" ++
  "  -o                         like -l, but do not list group information\n" ++
  "  -p, --indicator-style=slash\n" ++
  "                             append / indicator to directories\n" ++
  "  -q, --hide-control-chars   print ? instead of nongraphic characters\n" ++
  "      --show-control-chars   show nongraphic characters as-is (the default,\n" ++
  "                             unless program is 'ls' and output is a terminal)\n" ++
  "\n" ++
  "  -Q, --quote-name           enclose entry names in double quotes\n" ++
  "      --quoting-style=WORD   use quoting style WORD for entry names:\n" ++
  "                             literal, locale, shell, shell-always,\n" ++
  "                             shell-escape, shell-escape-always, c, escape\n" ++
  "                             (overrides QUOTING_STYLE environment variable)\n" ++
  "\n" ++
  "  -r, --reverse              reverse order while sorting\n" ++
  "  -R, --recursive            list subdirectories recursively\n" ++
  "  -s, --size                 print the allocated size of each file, in blocks\n" ++
  "  -S                         sort by file size, largest first\n" ++
  "      --sort=WORD            sort by WORD instead of name: none (-U), size (-S),\n" ++
  "                             time (-t), version (-v), extension (-X), width\n" ++
  "\n" ++
  "      --time=WORD            select which timestamp used to display or sort;\n" ++
  "                               access time (-u): atime, access, use;\n" ++
  "                               metadata change time (-c): ctime, status;\n" ++
  "                               modified time (default): mtime, modification;\n" ++
  "                               birth time: birth, creation;\n" ++
  "                             with -l, WORD determines which time to show;\n" ++
  "                             with --sort=time, sort by WORD (newest first)\n" ++
  "\n" ++
  "      --time-style=TIME_STYLE\n" ++
  "                             time/date format with -l; see TIME_STYLE below\n" ++
  "  -t                         sort by time, newest first; see --time\n" ++
  "  -T, --tabsize=COLS         assume tab stops at each COLS instead of 8\n" ++
  "  -u                         with -lt: sort by, and show, access time;\n" ++
  "                             with -l: show access time and sort by name;\n" ++
  "                             otherwise: sort by access time, newest first\n" ++
  "\n" ++
  "  -U                         do not sort; list entries in directory order\n" ++
  "  -v                         natural sort of (version) numbers within text\n" ++
  "  -w, --width=COLS           set output width to COLS.  0 means no limit\n" ++
  "  -x                         list entries by lines instead of by columns\n" ++
  "  -X                         sort alphabetically by entry extension\n" ++
  "  -Z, --context              print any security context of each file\n" ++
  "      --zero                 end each output line with NUL, not newline\n" ++
  "  -1                         list one file per line\n" ++
  "      --help        display this help and exit\n" ++
  "      --version     output version information and exit\n" ++
  "\n" ++
  "The SIZE argument is an integer and optional unit (example: 10K is 10*1024).\n" ++
  "Units are K,M,G,T,P,E,Z,Y,R,Q (powers of 1024) or KB,MB,... (powers of 1000).\n" ++
  "Binary prefixes can be used, too: KiB=K, MiB=M, and so on.\n" ++
  "\n" ++
  "The TIME_STYLE argument can be full-iso, long-iso, iso, locale, or +FORMAT.\n" ++
  "FORMAT is interpreted like in date(1).  If FORMAT is FORMAT1<newline>FORMAT2,\n" ++
  "then FORMAT1 applies to non-recent files and FORMAT2 to recent files.\n" ++
  "TIME_STYLE prefixed with 'posix-' takes effect only outside the POSIX locale.\n" ++
  "Also the TIME_STYLE environment variable sets the default style to use.\n" ++
  "\n" ++
  "The WHEN argument defaults to 'always' and can also be 'auto' or 'never'.\n" ++
  "\n" ++
  "Using color to distinguish file types is disabled both by default and\n" ++
  "with --color=never.  With --color=auto, ls emits color codes only when\n" ++
  "standard output is connected to a terminal.  The LS_COLORS environment\n" ++
  "variable can change the settings.  Use the dircolors(1) command to set it.\n" ++
  "\n" ++
  "Exit status:\n" ++
  " 0  if OK,\n" ++
  " 1  if minor problems (e.g., cannot access subdirectory),\n" ++
  " 2  if serious trouble (e.g., cannot access command-line argument).\n" ++
  "\n"

def mkdirHelp : String :=
  "Usage: $0 [OPTION]... DIRECTORY...\n" ++
  "Create the DIRECTORY(ies), if they do not already exist.\n" ++
  "\n" ++
  "Mandatory arguments to long options are mandatory for short options too.\n" ++
  "  -m, --mode=MODE   set file mode (as in chmod), not a=rwx - umask\n" ++
  "  -p, --parents     no error if existing, make parent directories as needed,\n" ++
  "                    with their file modes unaffected by any -m option.\n" ++
  "  -v, --verbose     print a message for each created directory\n" ++
  "  -Z                   set SELinux security context of each created directory\n" ++
  "                         to the default type\n" ++
  "      --context[=CTX]  like -Z, or if CTX is specified then set the SELinux\n" ++
  "                         or SMACK security context to CTX\n" ++
  "      --help        display this help and exit\n" ++
  "      --version     output version information and exit\n" ++
  "\n"

def printenvHelp : String :=
  "Usage: $0 [OPTION]... [VARIABLE]...\n" ++
  "Print the values of the specified environment VARIABLE(s).\n" ++
  "If no VARIABLE is specified, print name and value pairs for them all.\n" ++
  "\n" ++
  "  -0, --null     end each output line with NUL, not newline\n" ++
  "      --help        display this help and exit\n" ++
  "      --version     output version information and exit\n" ++
  "\n" ++
  "NOTE: your shell may have its own version of printenv, which usually supersedes\n" ++
  "the version described here.  Please refer to your shell's documentation\n" ++
  "for details about the options it supports.\n" ++
  "\n"

def printfHelp : String :=
  "Usage: $0 FORMAT [ARGUMENT]...\n" ++
  "  or:  $0 OPTION\n" ++
  "Print ARGUMENT(s) according to FORMAT, or execute according to OPTION:\n" ++
  "\n" ++
  "      --help        display this help and exit\n" ++
  "      --version     output version information and exit\n" ++
  "\n" ++
  "FORMAT controls the output as in C printf.  Interpreted sequences are:\n" ++
  "\n" ++
  "  \\\"      double quote\n" ++
  "  \\\\      backslash\n" ++
  "  \\a      alert (BEL)\n" ++
  "  \\b      backspace\n" ++
  "  \\c      produce no further output\n" ++
  "  \\e      escape\n" ++
  "  \\f      form feed\n" ++
  "  \\n      new line\n" ++
  "  \\r      carriage return\n" ++
  "  \\t      horizontal tab\n" ++
  "  \\v      vertical tab\n" ++
  "  \\NNN    byte with octal value NNN (1 to 3 digits)\n" ++
  "  \\xHH    byte with hexadecimal value HH (1 to 2 digits)\n" ++
  "  \\uHHHH  Unicode (ISO/IEC 10646) character with hex value HHHH (4 digits)\n" ++
  "  \\UHHHHHHHH  Unicode character with hex value HHHHHHHH (8 digits)\n" ++
  "  %%      a single %\n" ++
  "  %b      ARGUMENT as a string with '\\' escapes interpreted,\n" ++
  "          except that octal escapes are of the form \\0 or \\0NNN\n" ++
  "  %q      ARGUMENT is printed in a format that can be reused as shell input,\n" ++
  "          escaping non-printable characters with the proposed POSIX $'' syntax.\n" ++
  "\n" ++
  "and all C format specifications ending with one of diouxXfeEgGcs, with\n" ++
  "ARGUMENTs converted to proper type first.  Variable widths are handled.\n" ++
  "\n" ++
  "NOTE: your shell may have its own version of printf, which usually supersedes\n" ++
  "the version described here.  Please refer to your shell's documentation\n" ++
  "for details about the options it supports.\n" ++
  "\n"

def pwdHelp : String :=
  "Usage: $0 [OPTION]...\n" ++
  "Print the full filename of the current working directory.\n" ++
  "\n" ++
  "  -L, --logical   use PWD from environment, even if it contains symlinks\n" ++
  "  -P, --physical  avoid all symlinks\n" ++
  "      --help        display this help and exit\n" ++
  "      --version     output version information and exit\n" ++
  "\n" ++
  "If no option is specified, -P is assumed.\n" ++
  "\n" ++
  "NOTE: your shell may have its own version of pwd, which usually supersedes\n" ++
  "the version described here.  Please refer to your shell's documentation\n" ++
  "for details about the options it supports.\n" ++
  "\n"

def rmHelp : String :=
  "Usage: $0 [OPTION]... [FILE]...\n" ++
  "Remove (unlink) the FILE(s).\n" ++
  "\n" ++
  "  -f, --force           ignore nonexistent files and arguments, never prompt\n" ++
  "  -i                    prompt before every removal\n" ++
  "  -I                    prompt once before removing more than three files, or\n" ++
  "                          when removing recursively; less intrusive than -i,\n" ++
  "                          while still giving protection against most mistakes\n" ++
  "      --interactive[=WHEN]  prompt according to WHEN: never, once (-I), or\n" ++
  "                          always (-i); without WHEN, prompt always\n" ++
  "      --one-file-system  when removing a hierarchy recursively, skip any\n" ++
  "                          directory that is on a file system different from\n" ++
  "                          that of the corresponding command line argument\n" ++
  "      --no-preserve-root  do not treat '/' specially\n" ++
  "      --preserve-root[=all]  do not remove '/' (default);\n" ++
  "                              with 'all', reject any command line argument\n" ++
  "                              on a separate device from its parent\n" ++
  "  -r, -R, --recursive   remove directories and their contents recursively\n" ++
  "  -d, --dir             remove empty directories\n" ++
  "  -v, --verbose         explain what is being done\n" ++
  "      --help        display this help and exit\n" ++
  "      --version     output version information and exit\n" ++
  "\n" ++
  "By default, rm does not remove directories.  Use the --recursive (-r or -R)\n" ++
  "option to remove each listed directory, too, along with all of its contents.\n" ++
  "\n" ++
  "To remove a file whose name starts with a '-', for example '-foo',\n" ++
  "use one of these commands:\n" ++
  "  $0 -- -foo\n" ++
  "\n" ++
  "  $0 ./-foo\n" ++
  "\n" ++
  "Note that if you use rm to remove a file, it might be possible to recover\n" ++
  "some of its contents, given sufficient expertise and/or time.  For greater\n" ++
  "assurance that the contents are truly unrecoverable, consider using shred(1).\n" ++
  "\n"

def rmdirHelp : String :=
  "Usage: $0 [OPTION]... DIRECTORY...\n" ++
  "Remove the DIRECTORY(ies), if they are empty.\n" ++
  "\n" ++
  "      --ignore-fail-on-non-empty\n" ++
  "                    ignore each failure to remove a non-empty directory\n" ++
  "  -p, --parents     remove DIRECTORY and its ancestors;\n" ++
  "                    e.g., 'rmdir -p a/b' is similar to 'rmdir a/b a'\n" ++
  "\n" ++
  "  -v, --verbose     output a diagnostic for every directory processed\n" ++
  "      --help        display this help and exit\n" ++
  "      --version     output version information and exit\n" ++
  "\n"

def seqHelp : String :=
  "Usage: $0 [OPTION]... LAST\n" ++
  "  or:  $0 [OPTION]... FIRST LAST\n" ++
  "  or:  $0 [OPTION]... FIRST INCREMENT LAST\n" ++
  "Print numbers from FIRST to LAST, in steps of INCREMENT.\n" ++
  "\n" ++
  "Mandatory arguments to long options are mandatory for short options too.\n" ++
  "  -f, --format=FORMAT      use printf style floating-point FORMAT\n" ++
  "  -s, --separator=STRING   use STRING to separate numbers (default: \\n)\n" ++
  "  -w, --equal-width        equalize width by padding with leading zeroes\n" ++
  "      --help        display this help and exit\n" ++
  "      --version     output version information and exit\n" ++
  "\n" ++
  "If FIRST or INCREMENT is omitted, it defaults to 1.  That is, an\n" ++
  "omitted INCREMENT defaults to 1 even when LAST is smaller than FIRST.\n" ++
  "The sequence of numbers ends when the sum of the current number and\n" ++
  "INCREMENT would become greater than LAST.\n" ++
  "FIRST, INCREMENT, and LAST are interpreted as floating point values.\n" ++
  "INCREMENT is usually positive if FIRST is smaller than LAST, and\n" ++
  "INCREMENT is usually negative if FIRST is greater than LAST.\n" ++
  "INCREMENT must not be 0; none of FIRST, INCREMENT and LAST may be NaN.\n" ++
  "FORMAT must be suitable for printing one argument of type 'double';\n" ++
  "it defaults to %.PRECf if FIRST, INCREMENT, and LAST are all fixed point\n" ++
  "decimal numbers with maximum precision PREC, and to %g otherwise.\n" ++
  "\n"

def sleepHelp : String :=
  "Usage: $0 NUMBER[SUFFIX]...\n" ++
  "  or:  $0 OPTION\n" ++
  "Pause for NUMBER seconds.  SUFFIX may be 's' for seconds (the default),\n" ++
  "'m' for minutes, 'h' for hours or 'd' for days.  NUMBER need not be an\n" ++
  "integer.  Given two or more arguments, pause for the amount of time\n" ++
  "specified by the sum of their values.\n" ++
  "\n" ++
  "      --help        display this help and exit\n" ++
  "      --version     output version information and exit\n" ++
  "\n"

def sortHelp : String :=
  "Usage: $0 [OPTION]... [FILE]...\n" ++
  "  or:  $0 [OPTION]... --files0-from=F\n" ++
  "Write sorted concatenation of all FILE(s) to standard output.\n" ++
  "\n" ++
  "With no FILE, or when FILE is -, read standard input.\n" ++
  "\n" ++
  "Mandatory arguments to long options are mandatory for short options too.\n" ++
  "Ordering options:\n" ++
  "\n" ++
  "  -b, --ignore-leading-blanks  ignore leading blanks\n" ++
  "  -d, --dictionary-order      consider only blanks and alphanumeric characters\n" ++
  "  -f, --ignore-case           fold lower case to upper case characters\n" ++
  "  -g, --general-numeric-sort  compare according to general numerical value\n" ++
  "  -i, --ignore-nonprinting    consider only printable characters\n" ++
  "  -M, --month-sort            compare (unknown) < 'JAN' < ... < 'DEC'\n" ++
  "  -h, --human-numeric-sort    compare human readable numbers (e.g., 2K 1G)\n" ++
  "  -n, --numeric-sort          compare according to string numerical value\n" ++
  "  -R, --random-sort           shuffle, but group identical keys.  See shuf(1)\n" ++
  "      --random-source=FILE    get random bytes from FILE\n" ++
  "  -r, --reverse               reverse the result of comparisons\n" ++
  "      --sort=WORD             sort according to WORD:\n" ++
  "                                general-numeric -g, human-numeric -h, month -M,\n" ++
  "                                numeric -n, random -R, version -V\n" ++
  "  -V, --version-sort          natural sort of (version) numbers within text\n" ++
  "\n" ++
  "Other options:\n" ++
  "\n" ++
  "      --batch-size=NMERGE   merge at most NMERGE inputs at once;\n" ++
  "                            for more use temp files\n" ++
  "  -c, --check, --check=diagnose-first  check for sorted input; do not sort\n" ++
  "  -C, --check=quiet, --check=silent  like -c, but do not report first bad line\n" ++
  "      --compress-program=PROG  compress temporaries with PROG;\n" ++
  "                              decompress them with PROG -d\n" ++
  "      --debug               annotate the part of the line used to sort,\n" ++
  "                              and warn about questionable usage to stderr\n" ++
  "      --files0-from=F       read input from the files specified by\n" ++
  "                            NUL-terminated names in file F;\n" ++
  "                            If F is - then read names from standard input\n" ++
  "  -k, --key=KEYDEF          sort via a key; KEYDEF gives location and type\n" ++
  "  -m, --merge               merge already sorted files; do not sort\n" ++
  "  -o, --output=FILE         write result to FILE instead of standard output\n" ++
  "  -s, --stable              stabilize sort by disabling last-resort comparison\n" ++
  "  -S, --buffer-size=SIZE    use SIZE for main memory buffer\n" ++
  "  -t, --field-separator=SEP  use SEP instead of non-blank to blank transition\n" ++
  "  -T, --temporary-directory=DIR  use DIR for temporaries, not $TMPDIR or /tmp;\n" ++
  "                              multiple options specify multiple directories\n" ++
  "      --parallel=N          change the number of sorts run concurrently to N\n" ++
  "  -u, --unique              with -c, check for strict ordering;\n" ++
  "                              without -c, output only the first of an equal run\n" ++
  "  -z, --zero-terminated     line delimiter is NUL, not newline\n" ++
  "      --help        display this help and exit\n" ++
  "      --version     output version information and exit\n" ++
  "\n" ++
  "KEYDEF is F[.C][OPTS][,F[.C][OPTS]] for start and stop position, where F is a\n" ++
  "field number and C a character position in the field; both are origin 1, and\n" ++
  "the stop position defaults to the line's end.  If neither -t nor -b is in\n" ++
  "effect, characters in a field are counted from the beginning of the preceding\n" ++
  "whitespace.  OPTS is one or more single-letter ordering options [bdfgiMhnRrV],\n" ++
  "which override global ordering options for that key.  If no key is given, use\n" ++
  "the entire line as the key.  Use --debug to diagnose incorrect key usage.\n" ++
  "\n" ++
  "SIZE may be followed by the following multiplicative suffixes:\n" ++
  "% 1% of memory, b 1, K 1024 (default), and so on for M, G, T, P, E, Z, Y.\n" ++
  "\n" ++
  "*** WARNING ***\n" ++
  "The locale specified by the environment affects sort order.\n" ++
  "Set LC_ALL=C to get the traditional sort order that uses\n" ++
  "native byte values.\n" ++
  "\n"

def tailHelp : String :=
  "Usage: $0 [OPTION]... [FILE]...\n" ++
  "Print the last 10 lines of each FILE to standard output.\n" ++
  "With more than one FILE, precede each with a header giving the file name.\n" ++
  "\n" ++
  "With no FILE, or when FILE is -, read standard input.\n" ++
  "\n" ++
  "Mandatory arguments to long options are mandatory for short options too.\n" ++
  "  -c, --bytes=[+]NUM       output the last NUM bytes; or use -c +NUM to\n" ++
  "                             output starting with byte NUM of each file\n" ++
  "  -f, --follow[=\x7bname|descriptor\x7d]\n" ++
  "                           output appended data as the file grows;\n" ++
  "                             an absent option argument means 'descriptor'\n" ++
  "  -F                       same as --follow=name --retry\n" ++
  "  -n, --lines=[+]NUM       output the last NUM lines, instead of the last 10;\n" ++
  "                             or use -n +NUM to skip NUM-1 lines at the start\n" ++
  "      --max-unchanged-stats=N\n" ++
  "                           with --follow=name, reopen a FILE which has not\n" ++
  "                             changed size after N (default 5) iterations\n" ++
  "                             to see if it has been unlinked or renamed\n" ++
  "                             (this is the usual case of rotated log files);\n" ++
  "                             with inotify, this option is rarely useful\n" ++
  "      --pid=PID            with -f, terminate after process ID, PID dies\n" ++
  "  -q, --quiet, --silent    never output headers giving file names\n" ++
  "      --retry              keep trying to open a file if it is inaccessible\n" ++
  "  -s, --sleep-interval=N   with -f, sleep for approximately N seconds\n" ++
  "                             (default 1.0) between iterations;\n" ++
  "                             with inotify and --pid=P, check process P at\n" ++
  "                             least once every N seconds\n" ++
  "  -v, --verbose            always output headers giving file names\n" ++
  "  -z, --zero-terminated    line delimiter is NUL, not newline\n" ++
  "      --help        display this help and exit\n" ++
  "      --version     output version information and exit\n" ++
  "\n" ++
  "NUM may have a multiplier suffix:\n" ++
  "b 512, kB 1000, K 1024, MB 1000*1000, M 1024*1024,\n" ++
  "GB 1000*1000*1000, G 1024*1024*1024, and so on for T, P, E, Z, Y.\n" ++
  "Binary prefixes can be used, too: KiB=K, MiB=M, and so on.\n" ++
  "\n" ++
  "With --follow (-f), tail defaults to following the file descriptor, which\n" ++
  "means that even if a tail'ed file is renamed, tail will continue to track\n" ++
  "its end.  This default behavior is not desirable when you really want to\n" ++
  "track the actual name of the file, not the file descriptor (e.g., log\n" ++
  "rotation).  Use --follow=name in that case.  That causes tail to track the\n" ++
  "named file in a way that accommodates renaming, removal and creation.\n" ++
  "\n"

def teeHelp : String :=
  "Usage: $0 [OPTION]... [FILE]...\n" ++
  "Copy standard input to each FILE, and also to standard output.\n" ++
  "\n" ++
  "  -a, --append              append to the given FILEs, do not overwrite\n" ++
  "  -i, --ignore-interrupts   ignore interrupt signals\n" ++
  "  -p                        operate in a more appropriate MODE with pipes.\n" ++
  "      --output-error[=MODE]   set behavior on write error.  See MODE below\n" ++
  "      --help        display this help and exit\n" ++
  "      --version     output version information and exit\n" ++
  "\n" ++
  "MODE determines behavior with write errors on the outputs:\n" ++
  "  warn           diagnose errors writing to any output\n" ++
  "  warn-nopipe    diagnose errors writing to any output not a pipe\n" ++
  "  exit           exit on error writing to any output\n" ++
  "  exit-nopipe    exit on error writing to any output not a pipe\n" ++
  "The default MODE for the -p option is 'warn-nopipe'.\n" ++
  "With \"nopipe\" MODEs, exit immediately if all outputs become broken pipes.\n" ++
  "The default operation when --output-error is not specified, is to\n" ++
  "exit immediately on error writing to a pipe, and diagnose errors\n" ++
  "writing to non pipe outputs.\n" ++
  "\n"

def touchHelp : String :=
  "Usage: $0 [OPTION]... FILE...\n" ++
  "Update the access and modification times of each FILE to the current time.\n" ++
  "\n" ++
  "A FILE argument that does not exist is created empty, unless -c or -h\n" ++
  "is supplied.\n" ++
  "\n" ++
  "A FILE argument string of - is handled specially and causes touch to\n" ++
  "change the times of the file associated with standard output.\n" ++
  "\n" ++
  "Mandatory arguments to long options are mandatory for short options too.\n" ++
  "  -a                     change only the access time\n" ++
  "  -c, --no-create        do not create any files\n" ++
  "  -d, --date=STRING      parse STRING and use it instead of current time\n" ++
  "  -f                     (ignored)\n" ++
  "  -h, --no-dereference   affect each symbolic link instead of any referenced\n" ++
  "                         file (useful only on systems that can change the\n" ++
  "                         timestamps of a symlink)\n" ++
  "  -m                     change only the modification time\n" ++
  "  -r, --reference=FILE   use this file's times instead of current time\n" ++
  "  -t STAMP               use [[CC]YY]MMDDhhmm[.ss] instead of current time\n" ++
  "      --time=WORD        change the specified time:\n" ++
  "                           WORD is access, atime, or use: equivalent to -a\n" ++
  "                           WORD is modify or mtime: equivalent to -m\n" ++
  "      --help        display this help and exit\n" ++
  "      --version     output version information and exit\n" ++
  "\n" ++
  "Note that the -d and -t options accept different time-date formats.\n" ++
  "\n"

def trHelp : String :=
  "Usage: $0 [OPTION]... STRING1 [STRING2]\n" ++
  "Translate, squeeze, and/or delete characters from standard input,\n" ++
  "writing to standard output.  STRING1 and STRING2 specify arrays of\n" ++
  "characters ARRAY1 and ARRAY2 that control the action.\n" ++
  "\n" ++
  "  -c, -C, --complement    use the complement of ARRAY1\n" ++
  "  -d, --delete            delete characters in ARRAY1, do not translate\n" ++
  "  -s, --squeeze-repeats   replace each sequence of a repeated character\n" ++
  "                            that is listed in the last specified ARRAY,\n" ++
  "                            with a single occurrence of that character\n" ++
  "  -t, --truncate-set1     first truncate ARRAY1 to length of ARRAY2\n" ++
  "      --help        display this help and exit\n" ++
  "      --version     output version information and exit\n" ++
  "\n" ++
  "ARRAYs are specified as strings of characters.  Most represent themselves.\n" ++
  "Interpreted sequences are:\n" ++
  "\n" ++
  "  \\NNN            character with octal value NNN (1 to 3 octal digits)\n" ++
  "  \\\\              backslash\n" ++
  "  \\a              audible BEL\n" ++
  "  \\b              backspace\n" ++
  "  \\f              form feed\n" ++
  "  \\n              new line\n" ++
  "  \\r              return\n" ++
  "  \\t              horizontal tab\n" ++
  "  \\v              vertical tab\n" ++
  "  CHAR1-CHAR2     all characters from CHAR1 to CHAR2 in ascending order\n" ++
  "  [CHAR*]         in ARRAY2, copies of CHAR until length of ARRAY1\n" ++
  "  [CHAR*REPEAT]   REPEAT copies of CHAR, REPEAT octal if starting with 0\n" ++
  "  [:alnum:]       all letters and digits\n" ++
  "  [:alpha:]       all letters\n" ++
  "  [:blank:]       all horizontal whitespace\n" ++
  "  [:cntrl:]       all control characters\n" ++
  "  [:digit:]       all digits\n" ++
  "  [:graph:]       all printable characters, not including space\n" ++
  "  [:lower:]       all lower case letters\n" ++
  "  [:print:]       all printable characters, including space\n" ++
  "  [:punct:]       all punctuation characters\n" ++
  "  [:space:]       all horizontal or vertical whitespace\n" ++
  "  [:upper:]       all upper case letters\n" ++
  "  [:xdigit:]      all hexadecimal digits\n" ++
  "  [=CHAR=]        all characters which are equivalent to CHAR\n" ++
  "\n" ++
  "Translation occurs if -d is not given and both STRING1 and STRING2 appear.\n" ++
  "-t is only significant when translating.  ARRAY2 is extended to length of\n" ++
  "ARRAY1 by repeating its last character as necessary.  Excess characters\n" ++
  "of ARRAY2 are ignored.  Character classes expand in unspecified order;\n" ++
  "while translating, [:lower:] and [:upper:] may be used in pairs to\n" ++
  "specify case conversion.  Squeezing occurs after translation or deletion.\n" ++
  "\n"

def trueHelp : String :=
  "Usage: $0 [ignored command line arguments]\n" ++
  "  or:  $0 OPTION\n" ++
  "Exit with a status code indicating success.\n" ++
  "\n" ++
  "      --help        display this help and exit\n" ++
  "      --version     output version information and exit\n" ++
  "\n" ++
  "NOTE: your shell may have its own version of true, which usually supersedes\n" ++
  "the version described here.  Please refer to your shell's documentation\n" ++
  "for details about the options it supports.\n" ++
  "\n"

def wcHelp : String :=
  "Usage: $0 [OPTION]... [FILE]...\n" ++
  "  or:  $0 [OPTION]... --files0-from=F\n" ++
  "Print newline, word, and byte counts for each FILE, and a total line if\n" ++
  "more than one FILE is specified.  A word is a non-zero-length sequence of\n" ++
  "printable characters delimited by white space.\n" ++
  "\n" ++
  "With no FILE, or when FILE is -, read standard input.\n" ++
  "\n" ++
  "The options below may be used to select which counts are printed, always in\n" ++
  "the following order: newline, word, character, byte, maximum line length.\n" ++
  "  -c, --bytes            print the byte counts\n" ++
  "  -m, --chars            print the character counts\n" ++
  "  -l, --lines            print the newline counts\n" ++
  "      --files0-from=F    read input from the files specified by\n" ++
  "                           NUL-terminated names in file F;\n" ++
  "                           If F is - then read names from standard input\n" ++
  "  -L, --max-line-length  print the maximum display width\n" ++
  "  -w, --words            print the word counts\n" ++
  "      --total=WHEN       when to print a line with total counts;\n" ++
  "                           WHEN can be: auto, always, only, never\n" ++
  "      --help        display this help and exit\n" ++
  "      --version     output version information and exit\n" ++
  "\n"

def grepHelp : String :=
  "Usage: $0 [OPTION]... PATTERNS [FILE]...\n" ++
  "Search for PATTERNS in each FILE.\n" ++
  "Example: grep -i 'hello world' menu.h main.c\n" ++
  "PATTERNS can contain multiple patterns separated by newlines.\n" ++
  "\n" ++
  "Pattern selection and interpretation:\n" ++
  "  -E, --extended-regexp     PATTERNS are extended regular expressions\n" ++
  "  -F, --fixed-strings       PATTERNS are strings\n" ++
  "  -G, --basic-regexp        PATTERNS are basic regular expressions\n" ++
  "  -P, --perl-regexp         PATTERNS are Perl regular expressions\n" ++
  "  -e, --regexp=PATTERNS     use PATTERNS for matching\n" ++
  "  -f, --file=FILE           take PATTERNS from FILE\n" ++
  "  -i, --ignore-case         ignore case distinctions in patterns and data\n" ++
  "      --no-ignore-case      do not ignore case distinctions (default)\n" ++
  "  -w, --word-regexp         match only whole words\n" ++
  "  -x, --line-regexp         match only whole lines\n" ++
  "  -z, --null-data           a data line ends in 0 byte, not newline\n" ++
  "\n" ++
  "Miscellaneous:\n" ++
  "  -s, --no-messages         suppress error messages\n" ++
  "  -v, --invert-match        select non-matching lines\n" ++
  "  -V, --version             display version information and exit\n" ++
  "      --help                display this help text and exit\n" ++
  "\n" ++
  "Output control:\n" ++
  "  -m, --max-count=NUM       stop after NUM selected lines\n" ++
  "  -b, --byte-offset         print the byte offset with output lines\n" ++
  "  -n, --line-number         print line number with output lines\n" ++
  "      --line-buffered       flush output on every line\n" ++
  "  -H, --with-filename       print file name with output lines\n" ++
  "  -h, --no-filename         suppress the file name prefix on output\n" ++
  "      --label=LABEL         use LABEL as the standard input file name prefix\n" ++
  "  -o, --only-matching       show only nonempty parts of lines that match\n" ++
  "  -q, --quiet, --silent     suppress all normal output\n" ++
  "      --binary-files=TYPE   assume that binary files are TYPE;\n" ++
  "                            TYPE is 'binary', 'text', or 'without-match'\n" ++
  "  -a, --text                equivalent to --binary-files=text\n" ++
  "  -I                        equivalent to --binary-files=without-match\n" ++
  "  -d, --directories=ACTION  how to handle directories;\n" ++
  "                            ACTION is 'read', 'recurse', or 'skip'\n" ++
  "  -D, --devices=ACTION      how to handle devices, FIFOs and sockets;\n" ++
  "                            ACTION is 'read' or 'skip'\n" ++
  "  -r, --recursive           like --directories=recurse\n" ++
  "  -R, --dereference-recursive  likewise, but follow all symlinks\n" ++
  "      --include=GLOB        search only files that match GLOB (a file pattern)\n" ++
  "      --exclude=GLOB        skip files that match GLOB\n" ++
  "      --exclude-from=FILE   skip files that match any file pattern from FILE\n" ++
  "      --exclude-dir=GLOB    skip directories that match GLOB\n" ++
  "  -L, --files-without-match  print only names of FILEs with no selected lines\n" ++
  "  -l, --files-with-matches  print only names of FILEs with selected lines\n" ++
  "  -c, --count               print only a count of selected lines per FILE\n" ++
  "  -T, --initial-tab         make tabs line up (if needed)\n" ++
  "  -Z, --null                print 0 byte after FILE name\n" ++
  "\n" ++
  "Context control:\n" ++
  "  -B, --before-context=NUM  print NUM lines of leading context\n" ++
  "  -A, --after-context=NUM   print NUM lines of trailing context\n" ++
  "  -C, --context=NUM         print NUM lines of output context\n" ++
  "  -NUM                      same as --context=NUM\n" ++
  "      --group-separator=SEP  print SEP on line between matches with context\n" ++
  "      --no-group-separator  do not print separator for matches with context\n" ++
  "      --color[=WHEN],\n" ++
  "      --colour[=WHEN]       use markers to highlight the matching strings;\n" ++
  "                            WHEN is 'always', 'never', or 'auto'\n" ++
  "  -U, --binary              do not strip CR characters at EOL (MSDOS/Windows)\n" ++
  "\n" ++
  "When FILE is '-', read standard input.  With no FILE, read '.' if\n" ++
  "recursive, '-' otherwise.  With fewer than two FILEs, assume -h.\n" ++
  "Exit status is 0 if any line is selected, 1 otherwise;\n" ++
  "if any error occurs and -q is not given, the exit status is 2.\n" ++
  "\n"

def testHelp : String :=
  "Usage: test EXPRESSION\n" ++
  "  or:  test\n" ++
  "  or:  [ EXPRESSION ]\n" ++
  "  or:  [ ]\n" ++
  "  or:  [ OPTION\n" ++
  "Exit with the status determined by EXPRESSION.\n" ++
  "\n" ++
  "      --help        display this help and exit\n" ++
  "      --version     output version information and exit\n" ++
  "\n" ++
  "An omitted EXPRESSION defaults to false.  Otherwise,\n" ++
  "EXPRESSION is true or false and sets exit status.  It is one of:\n" ++
  "\n" ++
  "  ( EXPRESSION )               EXPRESSION is true\n" ++
  "  ! EXPRESSION                 EXPRESSION is false\n" ++
  "  EXPRESSION1 -a EXPRESSION2   both EXPRESSION1 and EXPRESSION2 are true\n" ++
  "  EXPRESSION1 -o EXPRESSION2   either EXPRESSION1 or EXPRESSION2 is true\n" ++
  "\n" ++
  "  -n STRING            the length of STRING is nonzero\n" ++
  "  STRING               equivalent to -n STRING\n" ++
  "  -z STRING            the length of STRING is zero\n" ++
  "  STRING1 = STRING2    the strings are equal\n" ++
  "  STRING1 != STRING2   the strings are not equal\n" ++
  "\n" ++
  "  INTEGER1 -eq INTEGER2   INTEGER1 is equal to INTEGER2\n" ++
  "  INTEGER1 -ge INTEGER2   INTEGER1 is greater than or equal to INTEGER2\n" ++
  "  INTEGER1 -gt INTEGER2   INTEGER1 is greater than INTEGER2\n" ++
  "  INTEGER1 -le INTEGER2   INTEGER1 is less than or equal to INTEGER2\n" ++
  "  INTEGER1 -lt INTEGER2   INTEGER1 is less than INTEGER2\n" ++
  "  INTEGER1 -ne INTEGER2   INTEGER1 is not equal to INTEGER2\n" ++
  "\n" ++
  "  FILE1 -ef FILE2   FILE1 and FILE2 have the same device and inode numbers\n" ++
  "  FILE1 -nt FILE2   FILE1 is newer (modification date) than FILE2\n" ++
  "  FILE1 -ot FILE2   FILE1 is older than FILE2\n" ++
  "\n" ++
  "  -b FILE     FILE exists and is block special\n" ++
  "  -c FILE     FILE exists and is character special\n" ++
  "  -d FILE     FILE exists and is a directory\n" ++
  "  -e FILE     FILE exists\n" ++
  "  -f FILE     FILE exists and is a regular file\n" ++
  "  -g FILE     FILE exists and is set-group-ID\n" ++
  "  -G FILE     FILE exists and is owned by the effective group ID\n" ++
  "  -h FILE     FILE exists and is a symbolic link (same as -L)\n" ++
  "  -k FILE     FILE exists and has its sticky bit set\n" ++
  "  -L FILE     FILE exists and is a symbolic link (same as -h)\n" ++
  "  -N FILE     FILE exists and has been modified since it was last read\n" ++
  "  -O FILE     FILE exists and is owned by the effective user ID\n" ++
  "  -p FILE     FILE exists and is a named pipe\n" ++
  "  -r FILE     FILE exists and the user has read access\n" ++
  "  -s FILE     FILE exists and has a size greater than zero\n" ++
  "  -S FILE     FILE exists and is a socket\n" ++
  "  -t FD       file descriptor FD is opened on a terminal\n" ++
  "  -u FILE     FILE exists and its set-user-ID bit is set\n" ++
  "  -w FILE     FILE exists and the user has write access\n" ++
  "  -x FILE     FILE exists and the user has execute (or search) access\n" ++
  "\n" ++
  "Except for -h and -L, all FILE-related tests dereference symbolic links.\n" ++
  "Beware that parentheses need to be escaped (e.g., by backslashes) for shells.\n" ++
  "INTEGER may also be -l STRING, which evaluates to the length of STRING.\n" ++
  "\n" ++
  "NOTE: Binary -a and -o are inherently ambiguous.  Use 'test EXPR1 && test\n" ++
  "EXPR2' or 'test EXPR1 || test EXPR2' instead.\n" ++
  "\n" ++
  "NOTE: [ honors the --help and --version options, but test does not.\n" ++
  "test treats each of those as it treats any other nonempty STRING.\n" ++
  "\n" ++
  "NOTE: your shell may have its own version of test and/or [, which usually supersedes\n" ++
  "the version described here.  Please refer to your shell's documentation\n" ++
  "for details about the options it supports.\n" ++
  "\n"


def whoamiHelp : String :=
  "Usage: $0 [OPTION]...\n" ++
  "Print the user name associated with the current effective user ID.\n" ++
  "Same as id -un.\n" ++
  "\n" ++
  "      --help        display this help and exit\n" ++
  "      --version     output version information and exit\n" ++
  "\n"

def idHelp : String :=
  "Usage: $0 [OPTION]... [USER]...\n" ++
  "Print user and group information for each specified USER,\n" ++
  "or (when USER omitted) for the current process.\n" ++
  "\n" ++
  "  -a             ignore, for compatibility with other versions\n" ++
  "  -Z, --context  print only the security context of the process\n" ++
  "  -g, --group    print only the effective group ID\n" ++
  "  -G, --groups   print all group IDs\n" ++
  "  -n, --name     print a name instead of a number, for -ugG\n" ++
  "  -r, --real     print the real ID instead of the effective ID, with -ugG\n" ++
  "  -u, --user     print only the effective user ID\n" ++
  "  -z, --zero     delimit entries with NUL characters, not whitespace;\n" ++
  "                   not permitted in default format\n" ++
  "      --help        display this help and exit\n" ++
  "      --version     output version information and exit\n" ++
  "\n" ++
  "Without any OPTION, print some useful set of identified information.\n" ++
  "\n"

def groupsHelp : String :=
  "Usage: $0 [OPTION]... [USERNAME]...\n" ++
  "Print group memberships for each USERNAME or, if no USERNAME is specified, for\n" ++
  "the current process (which may differ if the groups database has changed).\n" ++
  "      --help        display this help and exit\n" ++
  "      --version     output version information and exit\n" ++
  "\n"

def lognameHelp : String :=
  "Usage: $0 [OPTION]\n" ++
  "Print the user's login name.\n" ++
  "\n" ++
  "      --help        display this help and exit\n" ++
  "      --version     output version information and exit\n" ++
  "\n"

def ttyHelp : String :=
  "Usage: $0 [OPTION]...\n" ++
  "Print the file name of the terminal connected to standard input.\n" ++
  "\n" ++
  "  -s, --silent, --quiet   print nothing, only return an exit status\n" ++
  "      --help        display this help and exit\n" ++
  "      --version     output version information and exit\n" ++
  "\n"

def unameHelp : String :=
  "Usage: $0 [OPTION]...\n" ++
  "Print certain system information.  With no OPTION, same as -s.\n" ++
  "\n" ++
  "  -a, --all                print all information, in the following order,\n" ++
  "                             except omit -p and -i if unknown:\n" ++
  "  -s, --kernel-name        print the kernel name\n" ++
  "  -n, --nodename           print the network node hostname\n" ++
  "  -r, --kernel-release     print the kernel release\n" ++
  "  -v, --kernel-version     print the kernel version\n" ++
  "  -m, --machine            print the machine hardware name\n" ++
  "  -p, --processor          print the processor type (non-portable)\n" ++
  "  -i, --hardware-platform  print the hardware platform (non-portable)\n" ++
  "  -o, --operating-system   print the operating system\n" ++
  "      --help        display this help and exit\n" ++
  "      --version     output version information and exit\n" ++
  "\n"

def archHelp : String :=
  "Usage: $0 [OPTION]...\n" ++
  "Print machine architecture.\n" ++
  "\n" ++
  "      --help        display this help and exit\n" ++
  "      --version     output version information and exit\n" ++
  "\n"

def cutHelp : String :=
  "Usage: $0 OPTION... [FILE]...\n" ++
  "Print selected parts of lines from each FILE to standard output.\n" ++
  "\n" ++
  "With no FILE, or when FILE is -, read standard input.\n" ++
  "\n" ++
  "Mandatory arguments to long options are mandatory for short options too.\n" ++
  "  -b, --bytes=LIST        select only these bytes\n" ++
  "  -c, --characters=LIST   select only these characters\n" ++
  "  -d, --delimiter=DELIM   use DELIM instead of TAB for field delimiter\n" ++
  "  -f, --fields=LIST       select only these fields;  also print any line\n" ++
  "                            that contains no delimiter character, unless\n" ++
  "                            the -s option is specified\n" ++
  "  -n                      (ignored)\n" ++
  "      --complement        complement the set of selected bytes, characters\n" ++
  "                            or fields\n" ++
  "  -s, --only-delimited    do not print lines not containing delimiters\n" ++
  "      --output-delimiter=STRING  use STRING as the output delimiter\n" ++
  "                            the default is to use the input delimiter\n" ++
  "  -z, --zero-terminated   line delimiter is NUL, not newline\n" ++
  "      --help        display this help and exit\n" ++
  "      --version     output version information and exit\n" ++
  "\n" ++
  "Use one, and only one of -b, -c or -f.  Each LIST is made up of one\n" ++
  "range, or many ranges separated by commas.  Selected input is written\n" ++
  "in the same order that it is read, and is written exactly once.\n" ++
  "Each range is one of:\n" ++
  "\n" ++
  "  N     N'th byte, character or field, counted from 1\n" ++
  "  N-    from N'th byte, character or field, to end of line\n" ++
  "  N-M   from N'th to M'th (included) byte, character or field\n" ++
  "  -M    from first to M'th (included) byte, character or field\n" ++
  "\n"

def uniqHelp : String :=
  "Usage: $0 [OPTION]... [INPUT [OUTPUT]]\n" ++
  "Filter adjacent matching lines from INPUT (or standard input),\n" ++
  "writing to OUTPUT (or standard output).\n" ++
  "\n" ++
  "With no options, matching lines are merged to the first occurrence.\n" ++
  "\n" ++
  "Mandatory arguments to long options are mandatory for short options too.\n" ++
  "  -c, --count           prefix lines by the number of occurrences\n" ++
  "  -d, --repeated        only print duplicate lines, one for each group\n" ++
  "  -D                    print all duplicate lines\n" ++
  "      --all-repeated[=METHOD]  like -D, but allow separating groups\n" ++
  "                                 with an empty line;\n" ++
  "                                 METHOD=\x7bnone(default),prepend,separate\x7d\n" ++
  "  -f, --skip-fields=N   avoid comparing the first N fields\n" ++
  "      --group[=METHOD]  show all items, separating groups with an empty line;\n" ++
  "                          METHOD=\x7bseparate(default),prepend,append,both\x7d\n" ++
  "  -i, --ignore-case     ignore differences in case when comparing\n" ++
  "  -s, --skip-chars=N    avoid comparing the first N characters\n" ++
  "  -u, --unique          only print unique lines\n" ++
  "  -z, --zero-terminated     line delimiter is NUL, not newline\n" ++
  "  -w, --check-chars=N   compare no more than N characters in lines\n" ++
  "      --help        display this help and exit\n" ++
  "      --version     output version information and exit\n" ++
  "\n" ++
  "A field is a run of blanks (usually spaces and/or TABs), then non-blank\n" ++
  "characters.  Fields are skipped before chars.\n" ++
  "\n" ++
  "Note: 'uniq' does not detect repeated lines unless they are adjacent.\n" ++
  "You may want to sort the input first, or use 'sort -u' without 'uniq'.\n" ++
  "\n"

def tacHelp : String :=
  "Usage: $0 [OPTION]... [FILE]...\n" ++
  "Write each FILE to standard output, last line first.\n" ++
  "\n" ++
  "With no FILE, or when FILE is -, read standard input.\n" ++
  "\n" ++
  "Mandatory arguments to long options are mandatory for short options too.\n" ++
  "  -b, --before             attach the separator before instead of after\n" ++
  "  -r, --regex              interpret the separator as a regular expression\n" ++
  "  -s, --separator=STRING   use STRING as the separator instead of newline\n" ++
  "      --help        display this help and exit\n" ++
  "      --version     output version information and exit\n" ++
  "\n"

def pasteHelp : String :=
  "Usage: $0 [OPTION]... [FILE]...\n" ++
  "Write lines consisting of the sequentially corresponding lines from\n" ++
  "each FILE, separated by TABs, to standard output.\n" ++
  "\n" ++
  "With no FILE, or when FILE is -, read standard input.\n" ++
  "\n" ++
  "Mandatory arguments to long options are mandatory for short options too.\n" ++
  "  -d, --delimiters=LIST   reuse characters from LIST instead of TABs\n" ++
  "  -s, --serial            paste one file at a time instead of in parallel\n" ++
  "  -z, --zero-terminated    line delimiter is NUL, not newline\n" ++
  "      --help        display this help and exit\n" ++
  "      --version     output version information and exit\n" ++
  "\n"

def foldHelp : String :=
  "Usage: $0 [OPTION]... [FILE]...\n" ++
  "Wrap input lines in each FILE, writing to standard output.\n" ++
  "\n" ++
  "With no FILE, or when FILE is -, read standard input.\n" ++
  "\n" ++
  "Mandatory arguments to long options are mandatory for short options too.\n" ++
  "  -b, --bytes         count bytes rather than columns\n" ++
  "  -s, --spaces        break at spaces\n" ++
  "  -w, --width=WIDTH   use WIDTH columns instead of 80\n" ++
  "      --help        display this help and exit\n" ++
  "      --version     output version information and exit\n" ++
  "\n"

def nlHelp : String :=
  "Usage: $0 [OPTION]... [FILE]...\n" ++
  "Write each FILE to standard output, with line numbers added.\n" ++
  "\n" ++
  "With no FILE, or when FILE is -, read standard input.\n" ++
  "\n" ++
  "Mandatory arguments to long options are mandatory for short options too.\n" ++
  "  -b, --body-numbering=STYLE      use STYLE for numbering body lines\n" ++
  "  -d, --section-delimiter=CC      use CC for logical page delimiters\n" ++
  "  -f, --footer-numbering=STYLE    use STYLE for numbering footer lines\n" ++
  "  -h, --header-numbering=STYLE    use STYLE for numbering header lines\n" ++
  "  -i, --line-increment=NUMBER     line number increment at each line\n" ++
  "  -l, --join-blank-lines=NUMBER   group of NUMBER empty lines counted as one\n" ++
  "  -n, --number-format=FORMAT      insert line numbers according to FORMAT\n" ++
  "  -p, --no-renumber               do not reset line numbers for each section\n" ++
  "  -s, --number-separator=STRING   add STRING after (possible) line number\n" ++
  "  -v, --starting-line-number=NUMBER  first line number for each section\n" ++
  "  -w, --number-width=NUMBER       use NUMBER columns for line numbers\n" ++
  "      --help        display this help and exit\n" ++
  "      --version     output version information and exit\n" ++
  "\n" ++
  "Default options are: -bt -d'\\:' -fn -hn -i1 -l1 -n'rn' -s<TAB> -v1 -w6\n" ++
  "\n" ++
  "CC are two delimiter characters used to construct logical page delimiters;\n" ++
  "a missing second character implies ':'.  As a GNU extension one can specify\n" ++
  "more than two characters, and also specifying the empty string (-d '')\n" ++
  "disables section matching.\n" ++
  "\n" ++
  "STYLE is one of:\n" ++
  "\n" ++
  "  a      number all lines\n" ++
  "  t      number only nonempty lines\n" ++
  "  n      number no lines\n" ++
  "  pBRE   number only lines that contain a match for the basic regular\n" ++
  "         expression, BRE\n" ++
  "\n" ++
  "FORMAT is one of:\n" ++
  "\n" ++
  "  ln     left justified, no leading zeros\n" ++
  "  rn     right justified, no leading zeros\n" ++
  "  rz     right justified, leading zeros\n" ++
  "\n" ++
  "\n"

def yesHelp : String :=
  "Usage: $0 [STRING]...\n" ++
  "  or:  $0 OPTION\n" ++
  "Repeatedly output a line with all specified STRING(s), or 'y'.\n" ++
  "\n" ++
  "      --help        display this help and exit\n" ++
  "      --version     output version information and exit\n" ++
  "\n"

def odHelp : String :=
  "Usage: $0 [OPTION]... [FILE]...\n" ++
  "  or:  $0 [-abcdfilosx]... [FILE] [[+]OFFSET[.][b]]\n" ++
  "  or:  $0 --traditional [OPTION]... [FILE] [[+]OFFSET[.][b] [+][LABEL][.][b]]\n" ++
  "\n" ++
  "Write an unambiguous representation, octal bytes by default,\n" ++
  "of FILE to standard output.  With more than one FILE argument,\n" ++
  "concatenate them in the listed order to form the input.\n" ++
  "\n" ++
  "With no FILE, or when FILE is -, read standard input.\n" ++
  "\n" ++
  "If first and second call formats both apply, the second format is assumed\n" ++
  "if the last operand begins with + or (if there are 2 operands) a digit.\n" ++
  "An OFFSET operand means -j OFFSET.  LABEL is the pseudo-address\n" ++
  "at first byte printed, incremented when dump is progressing.\n" ++
  "For OFFSET and LABEL, a 0x or 0X prefix indicates hexadecimal;\n" ++
  "suffixes may be . for octal and b for multiply by 512.\n" ++
  "\n" ++
  "Mandatory arguments to long options are mandatory for short options too.\n" ++
  "  -A, --address-radix=RADIX   output format for file offsets; RADIX is one\n" ++
  "                                of [doxn], for Decimal, Octal, Hex or None\n" ++
  "      --endian=\x7bbig|little\x7d   swap input bytes according the specified order\n" ++
  "  -j, --skip-bytes=BYTES      skip BYTES input bytes first\n" ++
  "  -N, --read-bytes=BYTES      limit dump to BYTES input bytes\n" ++
  "  -S BYTES, --strings[=BYTES]  show only NUL terminated strings\n" ++
  "                                of at least BYTES (3) printable characters\n" ++
  "  -t, --format=TYPE           select output format or formats\n" ++
  "  -v, --output-duplicates     do not use * to mark line suppression\n" ++
  "  -w[BYTES], --width[=BYTES]  output BYTES bytes per output line;\n" ++
  "                                32 is implied when BYTES is not specified\n" ++
  "      --traditional           accept arguments in third form above\n" ++
  "      --help        display this help and exit\n" ++
  "      --version     output version information and exit\n" ++
  "\n" ++
  "\n" ++
  "Traditional format specifications may be intermixed; they accumulate:\n" ++
  "  -a   same as -t a,  select named characters, ignoring high-order bit\n" ++
  "  -b   same as -t o1, select octal bytes\n" ++
  "  -c   same as -t c,  select printable characters or backslash escapes\n" ++
  "  -d   same as -t u2, select unsigned decimal 2-byte units\n" ++
  "  -f   same as -t fF, select floats\n" ++
  "  -i   same as -t dI, select decimal ints\n" ++
  "  -l   same as -t dL, select decimal longs\n" ++
  "  -o   same as -t o2, select octal 2-byte units\n" ++
  "  -s   same as -t d2, select decimal 2-byte units\n" ++
  "  -x   same as -t x2, select hexadecimal 2-byte units\n" ++
  "\n" ++
  "\n" ++
  "TYPE is made up of one or more of these specifications:\n" ++
  "  a          named character, ignoring high-order bit\n" ++
  "  c          printable character or backslash escape\n" ++
  "  d[SIZE]    signed decimal, SIZE bytes per integer\n" ++
  "  f[SIZE]    floating point, SIZE bytes per float\n" ++
  "  o[SIZE]    octal, SIZE bytes per integer\n" ++
  "  u[SIZE]    unsigned decimal, SIZE bytes per integer\n" ++
  "  x[SIZE]    hexadecimal, SIZE bytes per integer\n" ++
  "\n" ++
  "SIZE is a number.  For TYPE in [doux], SIZE may also be C for\n" ++
  "sizeof(char), S for sizeof(short), I for sizeof(int) or L for\n" ++
  "sizeof(long).  If TYPE is f, SIZE may also be F for sizeof(float), D\n" ++
  "for sizeof(double) or L for sizeof(long double).\n" ++
  "\n" ++
  "Adding a z suffix to any type displays printable characters at the end of\n" ++
  "each output line.\n" ++
  "\n" ++
  "\n" ++
  "BYTES is hex with 0x or 0X prefix, and may have a multiplier suffix:\n" ++
  "  b    512\n" ++
  "  KB   1000\n" ++
  "  K    1024\n" ++
  "  MB   1000*1000\n" ++
  "  M    1024*1024\n" ++
  "and so on for G, T, P, E, Z, Y.\n" ++
  "Binary prefixes can be used, too: KiB=K, MiB=M, and so on.\n" ++
  "\n"

def usageText : String → Option String
  | "basename" => some basenameHelp
  | "cat" => some catHelp
  | "dirname" => some dirnameHelp
  | "echo" => some echoHelp
  | "env" => some envHelp
  | "expr" => some exprHelp
  | "false" => some falseHelp
  | "head" => some headHelp
  | "ls" => some lsHelp
  | "mkdir" => some mkdirHelp
  | "printenv" => some printenvHelp
  | "printf" => some printfHelp
  | "pwd" => some pwdHelp
  | "rm" => some rmHelp
  | "rmdir" => some rmdirHelp
  | "seq" => some seqHelp
  | "sleep" => some sleepHelp
  | "sort" => some sortHelp
  | "tail" => some tailHelp
  | "tee" => some teeHelp
  | "touch" => some touchHelp
  | "tr" => some trHelp
  | "true" => some trueHelp
  | "wc" => some wcHelp
  | "grep" => some grepHelp
  | "test" => some testHelp
  | "[" => some testHelp
  | "od" => some odHelp
  | "cut" => some cutHelp
  | "uniq" => some uniqHelp
  | "tac" => some tacHelp
  | "paste" => some pasteHelp
  | "fold" => some foldHelp
  | "nl" => some nlHelp
  | "yes" => some yesHelp
  | "whoami" => some whoamiHelp
  | "id" => some idHelp
  | "groups" => some groupsHelp
  | "logname" => some lognameHelp
  | "tty" => some ttyHelp
  | "uname" => some unameHelp
  | "arch" => some archHelp
  | _ => none

/-! ## Answers -/

def versionLine (prog : String) : String :=
  if prog == "grep" then "grep (GNU grep) 3.8\n" else prog ++ " (GNU coreutils) 9.1\n"

def fillInvoked (name : Bytes) : Bytes → Bytes
  | 36 :: 48 :: rest => name ++ fillInvoked name rest
  | b :: rest => b :: fillInvoked name rest
  | [] => []

def shortName (argv0 : Bytes) : Bytes :=
  (argv0.splitOn 47).getLast?.getD argv0

def ToolRun.writeHelp (r : ToolRun) (prog : String) (argv0 : Bytes) : ToolRun :=
  let name := if prog == "grep" then shortName argv0 else argv0
  match usageText prog with
  | some body => r.out (fillInvoked name (bytes body))
  | none => r

def ToolRun.writeVersion (r : ToolRun) (prog : String) : ToolRun :=
  r.out (bytes (versionLine prog))

def ToolRun.answerAbout (r : ToolRun) (prog : String) (argv0 : Bytes) (found : FoundOptions) :
    ToolRun :=
  match found.find? fun (k, _) => k == "help" || k == "version" with
  | some ("help", _) => r.writeHelp prog argv0
  | some _ => r.writeVersion prog
  | none => r

def ToolRun.answerLone (r : ToolRun) (prog : String) (argv0 : Bytes) (args : List Bytes) :
    Option ToolRun :=
  if args == [bytes "--help"] then some (r.writeHelp prog argv0)
  else if args == [bytes "--version"] then some (r.writeVersion prog)
  else none

def ToolRun.answerLoneLong (r : ToolRun) (prog : String) (argv0 : Bytes) (args : List Bytes) :
    Option ToolRun :=
  match args with
  | [45 :: 45 :: name] =>
    if name.isEmpty then none
    else if (bytes "help").take name.length == name then some (r.writeHelp prog argv0)
    else if (bytes "version").take name.length == name then some (r.writeVersion prog)
    else none
  | _ => none

end LintBridge.Host
