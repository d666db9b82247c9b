/-!
# The texts of the samples

Scripts written the way real sources look: mixed casing, comments everywhere,
forward declarations, nested branches.  Every line ends with a line feed.
-/

namespace ScriptTree.Sample

/-- Characters and items. -/
def instancesLines : List String :=
  ["// Characters and items, the bread and butter of every script folder",
    "",
    "instance PC_Hero(C_NPC)",
    "\x7b",
    "\tname\t\t= \"Ich\";",
    "\tguild\t\t= GIL_NONE;",
    "\tid\t\t\t= 0;",
    "\tvoice\t\t= 15;",
    "\tlevel\t\t= 0;",
    "\tnpctype\t\t= NPCTYPE_MAIN;",
    "",
    "\tattribute[ATR_STRENGTH]\t\t= 10;",
    "\tattribute[ATR_DEXTERITY]\t= 10;",
    "\tattribute[ATR_HITPOINTS_MAX] = 40;",
    "\tattribute[ATR_HITPOINTS]\t= 40;",
    "",
    "\tMdl_SetVisual(self, \"HUMANS.MDS\");",
    "\tB_SetNpcVisual(self, MALE, \"Hum_Head_Pony\", Face_N_Player, BodyTex_Player, NO_ARMOR);",
    "\x7d;",
    "",
    "instance ItMi_Gold(C_Item)",
    "\x7b",
    "\tname\t\t= NAME_Gold;",
    "\tmainflag\t= ITEM_KAT_NONE;",
    "\tflags\t\t= ITEM_MULTI;",
    "\tvalue\t\t= 1;",
    "\tvisual\t\t= \"ItMi_Gold.3DS\";",
    "\tdescription\t= name;",
    "\ttext[5]\t\t= NAME_Value;\tcount[5] = value;",
    "\x7d;",
    "",
    "// Forward declaration, the body lives in another file",
    "instance Pal_200_Hagen(Npc_Default);"]

/-- Prototypes with attributes by index. -/
def prototypesLines : List String :=
  ["prototype Npc_Default(C_NPC)",
    "\x7b",
    "\t// Attributes",
    "\tattribute[ATR_STRENGTH]\t\t\t= 10;",
    "\tattribute[ATR_DEXTERITY]\t\t= 10;",
    "\tattribute[ATR_MANA_MAX]\t\t\t= 10;",
    "\tattribute[ATR_MANA]\t\t\t\t= 10;",
    "\tattribute[ATR_HITPOINTS_MAX]\t= 40;",
    "\tattribute[ATR_HITPOINTS]\t\t= 40;",
    "",
    "\t/* Protection against",
    "\t   every kind of damage */",
    "\tprotection[PROT_BLUNT]\t= 0;",
    "\tprotection[PROT_EDGE]\t= 0;",
    "",
    "\tsenses\t\t\t= SENSE_HEAR + SENSE_SEE + SENSE_SMELL;",
    "\tsenses_range\t= PERC_DIST_ACTIVE_MAX;",
    "\x7d;",
    "",
    "prototype ItemPR_Potion(C_Item) \x7b mainflag = ITEM_KAT_POTIONS; flags = ITEM_MISSION; \x7d;"]

/-- Functions with every kind of statement. -/
def functionsLines : List String :=
  ["// Functions with every kind of statement",
    "",
    "func void Startup_Global()",
    "\x7b",
    "\tGame_InitGerman();",
    "\x7d;",
    "",
    "func int B_GetGreatestPetzCrime(var C_NPC slf)",
    "\x7b",
    "\tif (C_NpcBelongsToOldCamp(slf))",
    "\t\x7b",
    "\t\treturn CRIME_MURDER;",
    "\t\x7d;",
    "\treturn CRIME_NONE;",
    "\x7d;",
    "",
    "func void B_GiveTradeInv(var C_NPC slf, var int amount)",
    "\x7b",
    "\tvar int i;",
    "\tvar string text;",
    "\ti = 0;",
    "\tif (amount > 10 && !Npc_IsDead(slf))",
    "\t\x7b",
    "\t\tamount -= 10;",
    "\t\ti += 1;",
    "\t\x7d",
    "\telse if (amount == 0)",
    "\t\x7b",
    "\t\treturn;",
    "\t\x7d",
    "\telse",
    "\t\x7b",
    "\t\tamount = amount * 2 / (i + 1);",
    "\t\x7d;",
    "\ttext = ConcatStrings(\"Gold: \", IntToString(amount));",
    "\tCreateInvItems(slf, ItMi_Gold, amount);",
    "\x7d;",
    "",
    "func string Hero_Name() \x7b return \"Ich\"; \x7d;"]

/-- Classes with members of every type. -/
def classesLines : List String :=
  ["const int MAX_CHAPTER = 6;",
    "",
    "class C_NPC",
    "\x7b",
    "\tvar int\t\tid;",
    "\tvar string\tname[5];",
    "\tvar string\tslot;",
    "\tvar int\t\tnpcType;",
    "\tvar int\t\tflags;",
    "\tvar int\t\tattribute[ATR_INDEX_MAX];",
    "\tvar int\t\tprotection[PROT_INDEX_MAX];",
    "\tvar int\t\tdaily_routine;",
    "\x7d;",
    "",
    "class C_Item \x7b var int id; var string name; var int value; \x7d;"]

/-- Globals and constants. -/
def variablesLines : List String :=
  ["// Globals and constants, note the mixed keyword casing",
    "const int\tATR_HITPOINTS\t\t= 0;",
    "const int\tATR_HITPOINTS_MAX\t= 1;",
    "CONST INT\tATR_INDEX_MAX\t\t= 8;",
    "Const Float\tGAME_SPEED\t\t\t= 1.5;",
    "const string NAME_Gold\t\t\t= \"Gold\";",
    "const string TXT_GUILDS[3]\t\t= \x7b \"Nobody\", \"Paladin\", \"Militia\", \x7d;",
    "const int\tDAM_INDEX[2]\t\t= \x7b 1, 2 \x7d;",
    "",
    "var int\t\tKapitel;",
    "VAR C_NPC\thero;",
    "var string\tZähler;",
    "var int\t\tPlayerVisitedCity = TRUE;"]

/-- One assignment for every form of expression. -/
def expressionsLines : List String :=
  ["func void Expressions()",
    "\x7b",
    "\tx = 1 + 2 * 3;",
    "\tx = (1 + 2) * 3;",
    "\tx = a || b && c;",
    "\tx = a == b != c;",
    "\tx = a < b + 1;",
    "\tx = -x % 4 - ~y;",
    "\tx = !(hero.attribute[ATR_HITPOINTS] <= 0);",
    "\tx = Npc_GetDistToWP(self, \"OC_CENTER\") >= 500;",
    "\tself.aivar[AIV_LastFightAgainstPlayer] = FIGHT_LOST;",
    "\tname = \"line\\nbreak \\\"quoted\\\"\";",
    "\tflag = TRUE;",
    "\tratio = 0.25;",
    "\x7d;"]

/-- One mistake in every declaration. -/
def recoveryLines : List String :=
  ["// Broken on purpose: every declaration below has one mistake",
    "",
    "instance Broken_Missing_Semicolon(C_NPC)",
    "\x7b",
    "\tname = \"Broken\"",
    "\tlevel = 5;",
    "\x7d;",
    "",
    "func void Broken_Garbage()",
    "\x7b",
    "\tx = 1 + ;",
    "\tsenses = SENSE_HEAR | SENSE_SEE;",
    "\t\x7d \x7d ;",
    "\x7d;",
    "",
    "const int STILL_PARSED = 1;",
    "",
    "func void Broken_Unclosed()",
    "\x7b",
    "\tif (x) \x7b y = 1;",
    "",
    "instance Recovered(C_NPC) \x7b level = 2; \x7d;"]

/-- Everything once. -/
def kitchenSinkLines : List String :=
  ["/*",
    " * Kitchen sink: one of everything, in the casings",
    " * found in the original game scripts.",
    " */",
    "",
    "CONST INT LOG_MISSION = 0;",
    "const string TOPIC_Gold = \"Gold\";",
    "var int\t\tMIS_Gold;",
    "",
    "CLASS C_Info",
    "\x7b",
    "\tvar int\t\tnpc;",
    "\tvar int\t\tnr;",
    "\tvar int\t\tinformation;",
    "\tvar string\tdescription;",
    "\tvar int\t\tpermanent;",
    "\x7d;",
    "",
    "prototype Mst_Default_Wolf(C_NPC)",
    "\x7b",
    "\tname = \"Wolf\";",
    "\tguild = GIL_WOLF;",
    "\taivar[AIV_MM_REAL_ID] = ID_WOLF;",
    "\tlevel = 6;",
    "\tattribute[ATR_HITPOINTS] = 60;",
    "\x7d;",
    "",
    "INSTANCE Wolf(Mst_Default_Wolf)",
    "\x7b",
    "\tB_SetVisuals_Wolf();",
    "\tNpc_SetToFistMode(self);",
    "\x7d;",
    "",
    "Func Int DIA_Hero_Gold_Condition()",
    "\x7b",
    "\tIF (MIS_Gold == LOG_RUNNING && Npc_HasItems(other, ItMi_Gold) >= 100)",
    "\t\x7b",
    "\t\tRETURN TRUE;",
    "\t\x7d;",
    "\treturn FALSE;",
    "\x7d;",
    "",
    "func void DIA_Hero_Gold_Info()",
    "\x7b",
    "\tAI_Output(other, self, \"DIA_Hero_Gold_15_00\"); //Here is your gold.",
    "\tB_GiveInvItems(other, self, ItMi_Gold, 100);",
    "\tif (Npc_IsInState(self, ZS_Talk)) \x7b MIS_Gold = LOG_SUCCESS; \x7d else \x7b MIS_Gold = LOG_FAILED; \x7d;",
    "\tB_LogEntry(TOPIC_Gold, \"I paid.\");",
    "\thero.attribute[ATR_HITPOINTS] += 10;",
    "\x7d;"]

end ScriptTree.Sample
