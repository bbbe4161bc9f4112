/-
# The story's world

The home directory that a terminal starts in, and the parts of the world that
appear later: what a login reveals, the company's file share, and the files of
the employee portal.
-/

import StoryShell.Tree.Node

namespace StoryShell.World

/-- The name under which the file share appears in the home directory. -/
def shareName : String := "megacorp"

/-- The name under which the portal's files appear in the home directory. -/
def portalName : String := "portal"

/-- The banner of the portal's client program. -/
def portalBanner : String :=
  "MegaCorp Employee Portal client v2.3\n" ++
  "usage: ./portal.sh [--status | --disconnect | --help]\n" ++
  "Run without arguments to sign in (username, password, one-time token)."

/-- The user's papers. -/
def documents : Node :=
  .folder
    [("todo.txt", .textFile
        ("- renew parking permit\n" ++
         "- ask IT why the portal wants a token now\n" ++
         "- back up the journal before the audit")),
     ("meeting-notes.txt", .textFile
        ("Q3 sync\n" ++
         "Share drive moved: use megacorp-connect from any terminal.\n" ++
         "Your employee id is on your badge (MC-xxxx).")),
     (".draft-resignation.txt", (Node.textFile
        ("To whom it may concern,\n" ++
         "(unfinished)")).conceal)]

/-- The mail that has arrived. -/
def inbox : Node :=
  .folder
    [("001-it-helpdesk.txt", .textFile
        ("From: IT Helpdesk\n" ++
         "Subject: Portal sign-in changes\n" ++
         "\n" ++
         "The portal now asks for a one-time token after your password.\n" ++
         "Tokens are printed on the card in your welcome pack.")),
     ("002-jordan.txt", .textFile
        ("From: Jordan\n" ++
         "Subject: lunch?\n" ++
         "\n" ++
         "Same place as Friday. Bring the access code for the share,\n" ++
         "I keep forgetting mine. It's a flower, right?"))]

/-- The home directory at the start. -/
def home : Node :=
  .folder
    [("readme.txt", .textFile
        ("Welcome back.\n" ++
         "Type 'help' to see what this terminal can do.\n" ++
         "Use 'ls -a' to include hidden files.")),
     ("documents", documents),
     ("mail", .folder [("inbox", inbox)]),
     ("bin", .folder [("portal.sh", .program "portal" portalBanner)]),
     (".config", (Node.folder [("terminal.rc", .textFile
        ("prompt=\"$CWD $ \"\n" ++
         "history=unlimited"))]).conceal)]

/-- The journal that the user's own login brings to light. -/
def journal : Node :=
  (Node.folder
    [("2024-03-02.txt", .textFile
        ("The numbers in the Q3 report don't add up.\n" ++
         "Someone is moving money through the portal.")),
     ("2024-03-09.txt", .textFile
        "Copied the ledger to the share before they lock it.")]).conceal

/-- The files of the administrator. -/
def adminFiles : Node :=
  .folder
    [("access.log", .textFile
        ("09:12 alex login ok\n" ++
         "09:40 portal token reset (alex.m)\n" ++
         "23:58 share export by unknown host")),
     ("audit.sh", .program "audit" "Runs the nightly audit. Admins only.")]

/-- The part of the world that a login makes visible, with its name in the home directory. -/
def reveal? (name : String) : Option (String × Node) :=
  if name = "journal" then some (".journal", journal)
  else if name = "admin" then some ("admin", adminFiles)
  else none

/-- The company's file share. -/
def share : Node :=
  .folder
    [("announcements.txt", .textFile "All staff: the Q3 audit begins Monday."),
     ("finance", .folder [("q3-ledger.csv", .textFile
        ("account,amount,approved_by\n" ++
         "4471,12000,alex.m\n" ++
         "9002,880000,portal-service"))])]

/-- The files behind the portal. -/
def portalFiles : Node :=
  .folder
    [("profile.txt", .textFile
        ("name: Alex M.\n" ++
         "role: analyst\n" ++
         "clearance: staff")),
     ("messages", .folder [("from-security.txt", .textFile
        "Unusual transfers flagged on service account portal-service.")])]

end StoryShell.World
