/-!
# Further names of characters

A table of the names that some characters have beside their first one, and of the names of
controls. How a table is written is said beside its lookup.
-/

namespace SnippetGrader.Text.CharacterName

def aliases : String := "
  @0;aNULL;@0;aNUL;aSTART OF HEADING;@1;aSOH;aSTART OF TEXT;@2;aSTX;aEND OF TEXT;@3;aETX;
  aEND OF TRANSMISSION;@4;aEOT;aENQUIRY;@5;aENQ;aACKNOWLEDGE;@6;aACK;aALERT;@7;aBEL;aBACKSPACE;@8;
  aBS;aCHARACTER TABULATION;@9;aHORIZONTAL TABULATION;@9;aHT;@9;aTAB;aLINE FEED;@10;aNEW LINE;@10;
  aEND OF LINE;@10;aLF;@10;aNL;@10;aEOL;aLINE TABULATION;@11;aVERTICAL TABULATION;@11;aVT;
  aFORM FEED;@12;aFF;aCARRIAGE RETURN;@13;aCR;aSHIFT OUT;@14;aLOCKING-SHIFT ONE;@14;aSO;aSHIFT IN;
  @15;aLOCKING-SHIFT ZERO;@15;aSI;aDATA LINK ESCAPE;@16;aDLE;aDEVICE CONTROL ONE;@17;aDC1;
  aDEVICE CONTROL TWO;@18;aDC2;aDEVICE CONTROL THREE;@19;aDC3;aDEVICE CONTROL FOUR;@20;aDC4;
  aNEGATIVE ACKNOWLEDGE;@21;aNAK;aSYNCHRONOUS IDLE;@22;aSYN;aEND OF TRANSMISSION BLOCK;@23;aETB;
  aCANCEL;@24;aCAN;aEND OF MEDIUM;@25;aEOM;aSUBSTITUTE;@26;aSUB;aESCAPE;@27;aESC;
  aINFORMATION SEPARATOR FOUR;@28;aFILE SEPARATOR;@28;aFS;aINFORMATION SEPARATOR THREE;@29;
  aGROUP SEPARATOR;@29;aGS;aINFORMATION SEPARATOR TWO;@30;aRECORD SEPARATOR;@30;aRS;
  aINFORMATION SEPARATOR ONE;@31;aUNIT SEPARATOR;@31;aUS;aSP;@127;aDELETE;@127;aDEL;
  aPADDING CHARACTER;@128;aPAD;aHIGH OCTET PRESET;@129;aHOP;aBREAK PERMITTED HERE;@130;aBPH;
  aNO BREAK HERE;@131;aNBH;aINDEX;@132;aIND;aNEXT LINE;@133;aNEL;aSTART OF SELECTED AREA;@134;
  aSSA;aEND OF SELECTED AREA;@135;aESA;aCHARACTER TABULATION SET;@136;aHORIZONTAL TABULATION SET;
  @136;aHTS;aCHARACTER TABULATION WITH JUSTIFICATION;@137;
  aHORIZONTAL TABULATION WITH JUSTIFICATION;@137;aHTJ;aLINE TABULATION SET;@138;
  aVERTICAL TABULATION SET;@138;aVTS;aPARTIAL LINE FORWARD;@139;cDOWN;@139;aPLD;
  aPARTIAL LINE BACKWARD;@140;cUP;@140;aPLU;aREVERSE LINE FEED;@141;bINDEX;@141;aRI;
  aSINGLE SHIFT TWO;@142;aSINGLE-SHIFT-2;@142;aSS2;aSINGLE SHIFT THREE;@143;aSINGLE-SHIFT-3;@143;
  aSS3;aDEVICE CONTROL STRING;@144;aDCS;aPRIVATE USE ONE;@145;bUSE-1;@145;aPU1;aPRIVATE USE TWO;
  @146;bUSE-2;@146;aPU2;aSET TRANSMIT STATE;@147;aSTS;aCANCEL CHARACTER;@148;aCCH;
  aMESSAGE WAITING;@149;aMW;aSTART OF GUARDED AREA;@150;cPROTECTED AREA;@150;aSPA;
  aEND OF GUARDED AREA;@151;cPROTECTED AREA;@151;aEPA;aSTART OF STRING;@152;aSOS;
  aSINGLE GRAPHIC CHARACTER INTRODUCER;@153;aSGC;aSINGLE CHARACTER INTRODUCER;@154;aSCI;
  aCONTROL SEQUENCE INTRODUCER;@155;aCSI;aSTRING TERMINATOR;@156;aST;aOPERATING SYSTEM COMMAND;
  @157;aOSC;aPRIVACY MESSAGE;@158;aPM;aAPPLICATION PROGRAM COMMAND;@159;aAPC;aNBSP;@173;aSHY;@418;
  aLATIN CAPITAL LETTER GHA;bSMALL LETTER GHA;@847;aCGJ;@1564;aALM;@1801;
  aSYRIAC SUBLINEAR COLON SKEWED LEFT;@3294;aKANNADA LETTER LLLA;@3741;aLAO LETTER FO FON;@3743;
  dFAY;@3747;cRO;@3749;cLO;@4048;aTIBETAN MARK BKA- SHOG GI MGO RGYAN;@4588;
  aHANGUL JONGSEONG YESIEUNG-KIYEOK;cYESIEUNG-SSANGKIYEOK;cSSANGYESIEUNG;cYESIEUNG-KHIEUKH;@6155;
  aFVS1;aFVS2;aFVS3;aMVS;aFVS4;@8203;aZWSP;aZWNJ;aZWJ;aLRM;aRLM;@8234;aLRE;aRLE;aPDF;aLRO;aRLO;
  aNNBSP;@8287;aMMSP;aWJ;@8294;aLRI;aRLI;aFSI;aPDI;@8472;aWEIERSTRASS ELLIPTIC FUNCTION;@9288;
  aMICR ON US SYMBOL;bDASH SYMBOL;@11130;
  aLEFTWARDS TRIANGLE-HEADED ARROW WITH DOUBLE VERTICAL STROKE;@11132;
  aRIGHTWARDS TRIANGLE-HEADED ARROW WITH DOUBLE VERTICAL STROKE;@40981;
  aYI SYLLABLE ITERATION MARK;@43630;aMYANMAR LETTER KHAMTI LLA;@65024;aVS1;aVS2;aVS3;aVS4;aVS5;
  aVS6;aVS7;aVS8;aVS9;aVS10;aVS11;aVS12;aVS13;aVS14;aVS15;aVS16;@65048;
  aPRESENTATION FORM FOR VERTICAL RIGHT WHITE LENTICULAR BRACKET;@65279;aBYTE ORDER MARK;@65279;
  aBOM;@65279;aZWNBSP;@74452;aCUNEIFORM SIGN NU11 TENU;dOVER NU11 BUR OVER BUR;@93782;
  aMEDEFAIDRIN CAPITAL LETTER H;dNG;@93814;bSMALL LETTER H;dNG;@110593;aHENTAIGANA LETTER E-1;
  @118981;aBYZANTINE MUSICAL SYMBOL FTHORA SKLIRON CHROMA VASIS;@917760;aVS17;aVS18;aVS19;aVS20;
  aVS21;aVS22;aVS23;aVS24;aVS25;aVS26;aVS27;aVS28;aVS29;aVS30;aVS31;aVS32;aVS33;aVS34;aVS35;aVS36;
  aVS37;aVS38;aVS39;aVS40;aVS41;aVS42;aVS43;aVS44;aVS45;aVS46;aVS47;aVS48;aVS49;aVS50;aVS51;aVS52;
  aVS53;aVS54;aVS55;aVS56;aVS57;aVS58;aVS59;aVS60;aVS61;aVS62;aVS63;aVS64;aVS65;aVS66;aVS67;aVS68;
  aVS69;aVS70;aVS71;aVS72;aVS73;aVS74;aVS75;aVS76;aVS77;aVS78;aVS79;aVS80;aVS81;aVS82;aVS83;aVS84;
  aVS85;aVS86;aVS87;aVS88;aVS89;aVS90;aVS91;aVS92;aVS93;aVS94;aVS95;aVS96;aVS97;aVS98;aVS99;
  aVS100;aVS101;aVS102;aVS103;aVS104;aVS105;aVS106;aVS107;aVS108;aVS109;aVS110;aVS111;aVS112;
  aVS113;aVS114;aVS115;aVS116;aVS117;aVS118;aVS119;aVS120;aVS121;aVS122;aVS123;aVS124;aVS125;
  aVS126;aVS127;aVS128;aVS129;aVS130;aVS131;aVS132;aVS133;aVS134;aVS135;aVS136;aVS137;aVS138;
  aVS139;aVS140;aVS141;aVS142;aVS143;aVS144;aVS145;aVS146;aVS147;aVS148;aVS149;aVS150;aVS151;
  aVS152;aVS153;aVS154;aVS155;aVS156;aVS157;aVS158;aVS159;aVS160;aVS161;aVS162;aVS163;aVS164;
  aVS165;aVS166;aVS167;aVS168;aVS169;aVS170;aVS171;aVS172;aVS173;aVS174;aVS175;aVS176;aVS177;
  aVS178;aVS179;aVS180;aVS181;aVS182;aVS183;aVS184;aVS185;aVS186;aVS187;aVS188;aVS189;aVS190;
  aVS191;aVS192;aVS193;aVS194;aVS195;aVS196;aVS197;aVS198;aVS199;aVS200;aVS201;aVS202;aVS203;
  aVS204;aVS205;aVS206;aVS207;aVS208;aVS209;aVS210;aVS211;aVS212;aVS213;aVS214;aVS215;aVS216;
  aVS217;aVS218;aVS219;aVS220;aVS221;aVS222;aVS223;aVS224;aVS225;aVS226;aVS227;aVS228;aVS229;
  aVS230;aVS231;aVS232;aVS233;aVS234;aVS235;aVS236;aVS237;aVS238;aVS239;aVS240;aVS241;aVS242;
  aVS243;aVS244;aVS245;aVS246;aVS247;aVS248;aVS249;aVS250;aVS251;aVS252;aVS253;aVS254;aVS255;
  aVS256"

end SnippetGrader.Text.CharacterName
